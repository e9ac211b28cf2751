import Mathlib
import Gamebook.Yaml.Cursor

namespace Gamebook
namespace Yaml

-- A new line, and what stands in it at a column.
def newLine (column : Nat) (cs : List Char) : List Char :=
  '\n' :: (List.replicate column ' ' ++ cs)

-- What can come first in a token: no blank, comment or byte order mark.
def isSolid (c : Char) : Bool :=
  c ≠ ' ' && c ≠ '#' && c ≠ '\ufeff' && !isBreak c

def Starts (cs : List Char) : Prop :=
  ∀ c ∈ cs.head?, isSolid c

theorem starts_nil : Starts [] := by
  intro c hc
  cases hc

theorem Starts.cons {c : Char} {cs : List Char} (h : isSolid c) : Starts (c :: cs) := by
  intro d hd
  cases hd
  exact h

theorem Starts.head {cs : List Char} (h : Starts cs) {c : Char} (hc : c ∈ cs.head?) :
    c ≠ ' ' ∧ c ≠ '#' ∧ c ≠ '\ufeff' ∧ ¬isBreak c := by
  have h := h c hc
  simp only [isSolid, ne_eq, decide_not, Bool.and_eq_true, Bool.not_eq_true', decide_eq_false_iff_not,
    Bool.not_eq_true] at h ⊢
  exact ⟨h.1.1.1, h.1.1.2, h.1.2, h.2⟩

theorem Starts.append {cs ds : List Char} (h : Starts cs) (hn : cs ≠ []) : Starts (cs ++ ds) := by
  cases cs with
  | nil      => contradiction
  | cons c _ => exact .cons (h c rfl)

theorem takeWhile_spaces {n : Nat} {cs : List Char} (h : ∀ c ∈ cs.head?, c ≠ ' ') :
    (List.replicate n ' ' ++ cs).takeWhile (· = ' ') = List.replicate n ' ' := by
  have hc : cs.takeWhile (· = ' ') = [] := by
    cases cs with
    | nil       => rfl
    | cons c cs => exact List.takeWhile_cons_of_neg (by simpa using h c rfl)
  rw [List.takeWhile_append_of_pos (by simp [List.mem_replicate]), hc, List.append_nil]

theorem head?_dropWhile_space (cs : List Char) : (cs.dropWhile (· = ' ')).head? ≠ some ' ' := by
  intro h
  have hn := List.head?_dropWhile_not (· = ' ') cs
  simp [h] at hn

theorem takeWhile_space (cs : List Char) :
    cs.takeWhile (· = ' ') = List.replicate (cs.takeWhile (· = ' ')).length ' ' := by
  refine List.eq_replicate_iff.mpr ⟨rfl, fun c hc => ?_⟩
  have ha := List.all_takeWhile (p := (· = ' ')) (l := cs)
  simpa using List.all_eq_true.mp ha c hc

theorem takeWhile_append_dropWhile_space (cs : List Char) :
    List.replicate (cs.takeWhile (· = ' ')).length ' ' ++ cs.dropWhile (· = ' ') = cs := by
  rw [← takeWhile_space, List.takeWhile_append_dropWhile]

theorem splitBreak?_eq_none {cs : List Char} (h : ∀ c ∈ cs.head?, ¬isBreak c) : splitBreak? cs = none := by
  cases cs with
  | nil       => rfl
  | cons c cs =>
    have hc := h c rfl
    simp only [isBreak, Bool.or_eq_true, decide_eq_true_eq, not_or] at hc
    rw [splitBreak?]
    · simp [hc]
    · intro _ hr
      exact absurd hr hc.1.1.1.2

theorem not_isSeparator_indented {n : Nat} {cs : List Char} (h : n ≠ 0) :
    ¬isSeparator (List.replicate n ' ' ++ cs) := by
  cases n with
  | zero   => contradiction
  | succ n => simp [isSeparator, List.replicate_succ, List.isPrefixOf]

namespace Cursor

variable {c : Cursor} {m n : Nat} {ch : Char} {cs more : List Char}

theorem skip_skip : (c.skip m).skip n = c.skip (m + n) := by
  induction m generalizing c with
  | zero      => rw [Nat.zero_add, skip]
  | succ m hi => rw [Nat.add_right_comm, skip, skip, hi]

theorem index_step (h : c.rest ≠ []) : c.step.index = c.index + 1 := by
  unfold step
  split
  · contradiction
  · split
    · rfl
    · split <;> rfl

theorem index_skip (h : n ≤ c.rest.length) : (c.skip n).index = c.index + n := by
  induction n generalizing c with
  | zero      => rfl
  | succ n hi =>
    have hc : c.rest ≠ [] := List.ne_nil_of_length_pos (Nat.zero_lt_of_lt h)
    have hl : n ≤ c.step.rest.length := by
      rw [rest_step, List.length_drop]
      omega
    rw [skip, hi hl, index_step hc]
    omega

theorem line_le_step : c.line ≤ c.step.line := by
  unfold step
  split
  · exact Nat.le_refl _
  · split
    · exact Nat.le_succ _
    · split <;> exact Nat.le_refl _

theorem line_le_skip : c.line ≤ (c.skip n).line := by
  induction n generalizing c with
  | zero      => exact Nat.le_refl _
  | succ n hi => exact Nat.le_trans line_le_step hi

-- Within a line.

theorem step_within (h : c.rest = ch :: cs) (hb : ¬isBreak ch) :
    c.step.line = c.line ∧ c.column ≤ c.step.column := by
  unfold step
  rw [h]
  simp only [hb, Bool.false_and, Bool.false_eq_true, if_false]
  split
  · exact ⟨rfl, Nat.le_refl _⟩
  · exact ⟨rfl, Nat.le_succ _⟩

theorem skip_within (h : c.rest = cs ++ more) (hb : ∀ ch ∈ cs, ¬isBreak ch) :
    (c.skip cs.length).line = c.line ∧ c.column ≤ (c.skip cs.length).column := by
  induction cs generalizing c with
  | nil           => exact ⟨rfl, Nat.le_refl _⟩
  | cons ch cs hi =>
    have ⟨hl, hc⟩ := step_within h (hb ch List.mem_cons_self)
    have hr : c.step.rest = cs ++ more := by
      rw [rest_step, h]
      rfl
    have ⟨hl', hc'⟩ := hi hr fun ch hm => hb ch (List.mem_cons_of_mem _ hm)
    exact ⟨hl'.trans hl, Nat.le_trans hc hc'⟩

theorem step_char (h : c.rest = ch :: cs) (hb : ¬isBreak ch) (hm : ch ≠ '\ufeff') :
    c.step.column = c.column + 1 := by
  simp [step, h, hb, hm]

theorem skip_spaces (h : c.rest = List.replicate n ' ' ++ more) :
    (c.skip n).rest = more ∧ (c.skip n).column = c.column + n := by
  induction n generalizing c with
  | zero      => exact ⟨h, rfl⟩
  | succ n hi =>
    have hr : c.step.rest = List.replicate n ' ' ++ more := by
      rw [rest_step, h]
      rfl
    have ⟨hr', hc⟩ := hi hr
    rw [skip, hc, step_char h (by decide) (by decide)]
    exact ⟨hr', by omega⟩

-- To the next line.

theorem step_break (h : c.rest = ch :: cs) (hb : isBreak ch) (hr : ch ≠ '\r') :
    c.step.line = c.line + 1 ∧ c.step.column = 0 := by
  unfold step
  rw [h]
  simp [hb, hr]

theorem skip_newLine (h : c.rest = newLine m more) :
    (c.skip (m + 1)).rest = more ∧ (c.skip (m + 1)).column = m ∧ c.line < (c.skip (m + 1)).line := by
  have ⟨hl, hc⟩ := step_break h (by decide) (by decide)
  have hr : c.step.rest = List.replicate m ' ' ++ more := by
    rw [rest_step, h]
    rfl
  have ⟨hr', hc'⟩ := skip_spaces hr
  rw [skip]
  refine ⟨hr', by omega, Nat.lt_of_lt_of_le ?_ line_le_skip⟩
  omega

theorem skipWhile_spaces (h : c.rest = List.replicate n ' ' ++ more) (hs : ∀ ch ∈ more.head?, ch ≠ ' ') :
    c.skipWhile (· = ' ') = c.skip n := by
  rw [skipWhile, h, takeWhile_spaces hs, List.length_replicate]

theorem moveTo_append (cs : List Char) (h : c.rest = cs ++ more) : c.moveTo more = c.skip cs.length := by
  rw [moveTo, h, List.length_append, Nat.add_sub_cancel]

end Cursor
end Yaml
end Gamebook
