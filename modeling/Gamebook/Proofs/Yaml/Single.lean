import Mathlib
import Gamebook.Proofs.Yaml.Pen
import Gamebook.Proofs.Yaml.Quoted
import Gamebook.Proofs.Yaml.Style

namespace Gamebook
namespace Yaml
namespace Single

-- What a run of line breaks between apostrophes is read as. It is written with one more line feed
-- if it starts with one, so that only a run that starts with another line break loses something.
def echoRun : List Char → List Char
  | []      => []
  | c :: cs =>
    if c = '\n' then (c :: cs).map Quoted.lineEnd
    else Quoted.folded (Quoted.lineEnd c) (cs.map Quoted.lineEnd)

-- What a text between apostrophes is read as.
def echo (cs : List Char) : List Char :=
  match cs with
  | []      => []
  | c :: cs =>
    if Style.isLineBreak c then
      echoRun (c :: cs.takeWhile Style.isLineBreak) ++ echo (cs.dropWhile Style.isLineBreak)
    else c :: echo cs
termination_by cs.length
decreasing_by
  · exact Nat.lt_succ_of_le (List.dropWhile_suffix _).length_le
  · simp

-- A text and a way to write it between apostrophes. `column` is where its further lines start.
inductive Wrapped (column : Nat) : List Char → List Char → Prop
  | nil    : Wrapped column [] []
  | char   : ¬isWhite c ∧ ¬isBreak c → c ≠ Text.apostrophe → Wrapped column cs w →
      Wrapped column (c :: cs) (c :: w)
  | quote  : Wrapped column cs w →
      Wrapped column (Text.apostrophe :: cs) (Text.apostrophe :: Text.apostrophe :: w)
  | spaces : Quoted.Halts cs → Wrapped column cs w →
      Wrapped column (List.replicate (n + 1) ' ' ++ cs) (List.replicate (n + 1) ' ' ++ w)
  | fold   : Quoted.Halts cs → Wrapped column cs w → Wrapped column (' ' :: cs) (newLine column w)
  | breaks : (∀ c ∈ b :: run, Style.isLineBreak c) → Quoted.Halts cs → Wrapped column cs w →
      Wrapped column (b :: (run ++ cs))
        ((if b = '\n' then ['\n'] else []) ++ b :: (run ++ (List.replicate column ' ' ++ w)))

variable {column : Nat} {cs w rest : List Char}

theorem Wrapped.halts (h : Wrapped column cs w) (hc : Quoted.Halts cs) (rest : List Char) :
    Quoted.Halts (w ++ Text.apostrophe :: rest) := by
  cases h with
  | nil         => exact .cons (by decide)
  | char h      => exact .cons h
  | quote       => exact .cons (by decide)
  | spaces      => exact absurd rfl (hc ' ' rfl).left
  | fold        => exact absurd rfl (hc ' ' rfl).left
  | breaks h    => exact absurd (Quoted.isBreak_of_lineBreak (h _ List.mem_cons_self)) (hc _ rfl).right

theorem takeWhile_lineBreak {run : List Char} (hr : ∀ c ∈ run, Style.isLineBreak c) (h : Quoted.Halts cs) :
    (run ++ cs).takeWhile Style.isLineBreak = run ∧ (run ++ cs).dropWhile Style.isLineBreak = cs := by
  rw [List.takeWhile_append_of_pos hr, List.dropWhile_append_of_pos hr]
  cases cs with
  | nil => simp
  | cons c cs =>
    have hc : ¬Style.isLineBreak c := fun hc => (h c rfl).right (Quoted.isBreak_of_lineBreak hc)
    rw [List.takeWhile_cons_of_neg hc, List.dropWhile_cons_of_neg hc, List.append_nil]
    exact ⟨rfl, rfl⟩

theorem echo_cons {c : Char} (h : ¬Style.isLineBreak c) : echo (c :: cs) = c :: echo cs := by
  rw [echo, if_neg h]

theorem echo_spaces (n : Nat) : echo (List.replicate n ' ' ++ cs) = List.replicate n ' ' ++ echo cs := by
  induction n with
  | zero      => rfl
  | succ n hi => rw [List.replicate_succ, List.cons_append, echo_cons (by decide), hi, List.cons_append]

theorem read_close (hr : rest.head? ≠ some Text.apostrophe) :
    Quoted.read false (Text.apostrophe :: rest) = .ok ([], rest) := by
  have hb : ¬(isWhite Text.apostrophe || isBreak Text.apostrophe) := by decide
  rw [Quoted.read.eq_def]
  simp only [if_neg hb, Bool.false_eq_true, if_false, if_true]
  cases rest with
  | nil         => rfl
  | cons c rest =>
    have hc : c ≠ Text.apostrophe := fun hc => hr (congrArg some hc)
    exact if_neg hc

theorem read_quote {s : List Char} (h : Quoted.read false cs = .ok (s, rest)) :
    Quoted.read false (Text.apostrophe :: Text.apostrophe :: cs) = .ok (Text.apostrophe :: s, rest) := by
  have hb : ¬(isWhite Text.apostrophe || isBreak Text.apostrophe) := by decide
  rw [Quoted.read.eq_def]
  simp only [if_neg hb, Bool.false_eq_true, if_false, if_true, h]
  rfl

theorem read_wrapped (h : Wrapped column cs w) (h0 : column ≠ 0) (hr : rest.head? ≠ some Text.apostrophe) :
    Quoted.read false (w ++ Text.apostrophe :: rest) = .ok (echo cs, rest) := by
  induction h with
  | nil =>
    rw [echo]
    exact read_close hr
  | char hc hq _ hi =>
    rw [echo_cons fun hb => hc.right (Quoted.isBreak_of_lineBreak hb)]
    exact Quoted.read_char hc (.inl ⟨hq, Bool.false_ne_true⟩) hi
  | quote _ hi =>
    rw [echo_cons (by decide)]
    exact read_quote hi
  | spaces hh hw hi =>
    rw [echo_spaces, List.append_assoc]
    exact Quoted.read_spaces (by simp) (hw.halts hh rest) hi
  | @fold cs w hh hw hi =>
    have hb := Quoted.read_breaks (c := '\n') [] (by simp) (by decide) h0 (hw.halts hh rest) hi
    rw [echo_cons (by decide), newLine, List.cons_append, List.append_assoc]
    exact hb
  | @breaks b run cs w hb hh hw hi =>
    have hr := fun c hc => hb c (List.mem_cons_of_mem b hc)
    have hc := hb b List.mem_cons_self
    have ⟨ht, hd⟩ := takeWhile_lineBreak hr hh
    rw [echo, if_pos hc, ht, hd, echoRun]
    simp only [List.append_assoc, List.cons_append]
    split
    case isTrue he =>
      have hf : Quoted.folded '\n' ((b :: run).map Quoted.lineEnd) = (b :: run).map Quoted.lineEnd := rfl
      have h := Quoted.read_breaks (c := '\n') _ hb (by decide) h0 (hw.halts hh rest) hi
      rwa [show Quoted.lineEnd '\n' = '\n' from rfl, hf] at h
    case isFalse => exact Quoted.read_breaks _ hr hc h0 (hw.halts hh rest) hi

-- A next line character is never read back.

theorem not_mem_lineEnd {c : Char} : Quoted.lineEnd c ≠ '\x85' := by
  rw [Quoted.lineEnd]
  split
  · decide
  · assumption

theorem not_mem_map_lineEnd : '\x85' ∉ cs.map Quoted.lineEnd := by
  intro h
  have ⟨_, _, h⟩ := List.mem_map.mp h
  exact not_mem_lineEnd h

theorem not_mem_echoRun : '\x85' ∉ echoRun cs := by
  cases cs with
  | nil => exact List.not_mem_nil
  | cons c cs =>
    rw [echoRun]
    split
    case isTrue  => exact not_mem_map_lineEnd
    case isFalse =>
      rw [Quoted.folded]
      split
      case isTrue => exact fun h => (List.mem_cons.mp h).elim (Ne.symm not_mem_lineEnd) not_mem_map_lineEnd
      case isFalse =>
        split
        · decide
        · exact not_mem_map_lineEnd

theorem not_mem_echo : '\x85' ∉ echo cs := by
  fun_induction echo cs with
  | case1            => simp
  | case2 c cs hc hi => exact fun hm => (List.mem_append.mp hm).elim not_mem_echoRun hi
  | case3 c cs hc hi =>
    intro hm
    cases List.mem_cons.mp hm
    case inl he => exact hc (he ▸ by decide)
    case inr hm => exact hi hm

theorem lineEnd_of_ne {c : Char} (h : c ≠ '\x85') : Quoted.lineEnd c = c :=
  if_neg h

theorem map_lineEnd (h : '\x85' ∉ cs) : cs.map Quoted.lineEnd = cs := by
  conv => rhs; rw [← List.map_id cs]
  exact List.map_congr_left fun c hc => lineEnd_of_ne fun he => h (he ▸ hc)

theorem echoRun_eq_self (h : '\x85' ∉ cs) : echoRun cs = cs := by
  cases cs with
  | nil => rfl
  | cons c cs =>
    simp only [List.mem_cons, not_or] at h
    rw [echoRun, List.map_cons, lineEnd_of_ne (Ne.symm h.left), map_lineEnd h.right]
    split
    case isTrue => rfl
    case isFalse hc => rw [Quoted.folded, if_pos hc]

theorem echo_eq_self (h : '\x85' ∉ cs) : echo cs = cs := by
  fun_induction echo cs with
  | case1            => rfl
  | case2 c cs hc hi =>
    have he : c :: cs = (c :: cs.takeWhile Style.isLineBreak) ++ cs.dropWhile Style.isLineBreak := by
      rw [List.cons_append, List.takeWhile_append_dropWhile]
    rw [he, List.mem_append, not_or] at h
    rw [echoRun_eq_self h.left, hi h.right, ← he]
  | case3 c cs hc hi => rw [hi fun hm => h (List.mem_cons_of_mem _ hm)]

-- Texts that stand between apostrophes.
structure Fit (cs : List Char) : Prop where
  plain  : ∀ c ∈ cs, ¬Style.isSpecial c
  before : Style.adjacent Style.isSpace Style.isLineBreak cs = false
  after  : Style.adjacent Style.isLineBreak Style.isSpace cs = false

theorem fit_of_allowsSingle (h : Style.allowsSingle cs) : Fit cs := by
  simp only [Style.allowsSingle, Bool.and_eq_true, Bool.not_eq_true', List.any_eq_false] at h
  exact ⟨h.left.left, h.left.right, h.right⟩

theorem Fit.drop {ds : List Char} (h : Fit (cs ++ ds)) : Fit ds where
  plain  := fun c hc => h.plain c (List.mem_append_right _ hc)
  before := Style.adjacent_append h.before
  after  := Style.adjacent_append h.after

theorem Fit.tail {c : Char} (h : Fit (c :: cs)) : Fit cs :=
  Fit.drop (List.singleton_append ▸ h)

theorem Fit.halts (h : Fit cs) (hc : ∀ c ∈ cs.head?, c ≠ ' ' ∧ ¬Style.isLineBreak c) : Quoted.Halts cs := by
  intro c hm
  have ⟨hs, hb⟩ := hc c hm
  exact (Style.inner_of_not_special (h.plain c (List.mem_of_mem_head? hm)) hb).resolve_left hs

theorem Fit.halts_of_spaces {n : Nat} (h : Fit (List.replicate (n + 1) ' ' ++ cs)) (hs : cs.head? ≠ some ' ') :
    Quoted.Halts cs := by
  refine h.drop.halts fun c hc => ⟨fun he => hs (he ▸ hc), ?_⟩
  exact Style.not_head_of_adjacent (by simp) (fun c hc => by simp [List.eq_of_mem_replicate hc, Style.isSpace])
    h.before c hc

theorem Fit.halts_of_breaks {run : List Char} (h : Fit (run ++ cs)) (hn : run ≠ [])
    (hr : ∀ c ∈ run, Style.isLineBreak c) (hb : ∀ c ∈ cs.head?, ¬Style.isLineBreak c) : Quoted.Halts cs := by
  refine h.drop.halts fun c hc => ⟨fun he => ?_, hb c hc⟩
  exact Style.not_head_of_adjacent hn hr h.after c hc (he ▸ rfl)

def doubled (cs : List Char) : List Char :=
  cs.flatMap fun c => if c = Text.apostrophe then [c, c] else [c]

theorem doubled_spaces (n : Nat) : doubled (List.replicate n ' ' ++ cs) = List.replicate n ' ' ++ doubled cs := by
  induction n with
  | zero      => rfl
  | succ n hi =>
    rw [List.replicate_succ, List.cons_append, doubled, List.flatMap_cons, if_neg (by decide)]
    exact congrArg (' ' :: ·) hi

-- How a pen `q` has gone on from `p` by what is written for `cs`.
structure Body (column : Nat) (split : Bool) (p q : Pen) (cs w : List Char) : Prop where
  text  : q.text = p.text ++ w
  ways  : Wrapped column cs w
  whole : ¬split → ¬Style.isMultiline cs → w = doubled cs

namespace Body

variable {split : Bool} {p q : Pen} {c : Char} {n : Nat}

theorem ended (column : Nat) (split : Bool) (p : Pen) : Body column split p p [] [] where
  text  := by simp
  ways  := .nil
  whole := fun _ _ => rfl

theorem char (hc : ¬isWhite c ∧ ¬isBreak c) (hq : c ≠ Text.apostrophe)
    (h : Body column split (p.write [c]) q cs w) : Body column split p q (c :: cs) (c :: w) where
  text  := by simp [h.text]
  ways  := .char hc hq h.ways
  whole := by
    intro hn hm
    rw [h.whole hn (Style.not_isMultiline_tail hm), doubled, doubled, List.flatMap_cons, if_neg hq]
    rfl

theorem quote (h : Body column split (p.write [Text.apostrophe, Text.apostrophe]) q cs w) :
    Body column split p q (Text.apostrophe :: cs) (Text.apostrophe :: Text.apostrophe :: w) where
  text  := by simp [h.text]
  ways  := .quote h.ways
  whole := by
    intro hn hm
    rw [h.whole hn (Style.not_isMultiline_tail hm), doubled, doubled, List.flatMap_cons, if_pos rfl]
    rfl

theorem spaces (hh : Quoted.Halts cs) (h : Body column split (p.write (List.replicate (n + 1) ' ')) q cs w) :
    Body column split p q (List.replicate (n + 1) ' ' ++ cs) (List.replicate (n + 1) ' ' ++ w) where
  text  := by simp [h.text]
  ways  := .spaces hh h.ways
  whole := by
    intro hn hm
    rw [doubled_spaces, h.whole hn (Style.not_isMultiline_drop hm)]

-- A single space becomes the end of a line that is full.
theorem fold (hs : split) (hl : p.isFull 0) (hw : column ≤ Pen.width) (hh : Quoted.Halts cs)
    (h : Body column split (p.toColumn column) q cs w) : Body column split p q (' ' :: cs) (newLine column w) where
  text  := by
    rw [Pen.isFull, decide_eq_true_eq] at hl
    have ⟨ht, _⟩ := Pen.toColumn_occupied (p := p) (n := column) (.inr (Nat.lt_of_le_of_lt hw hl))
    rw [h.text, ht, newLine, List.append_assoc]
    rfl
  ways  := .fold hh h.ways
  whole := fun hn => absurd hs hn

theorem breaks {b : Char} {run : List Char} (hr : ∀ c ∈ b :: run, Style.isLineBreak c) (h0 : column ≠ 0)
    (hh : Quoted.Halts cs) (h : Body column split
      (((b :: run).foldl Pen.lineBreak (if b = '\n' then p.lineBreak '\n' else p)).toColumn column) q cs w) :
    Body column split p q (b :: (run ++ cs))
      ((if b = '\n' then ['\n'] else []) ++ b :: (run ++ (List.replicate column ' ' ++ w))) where
  text  := by
    have ⟨hf, hready⟩ := Pen.foldl_lineBreak (p := if b = '\n' then p.lineBreak '\n' else p) b run
    have ⟨ht, _⟩ := Pen.toColumn_fresh hready.fresh (hready.column.symm ▸ Nat.pos_of_ne_zero h0)
    have hp : (if b = '\n' then p.lineBreak '\n' else p).text = p.text ++ if b = '\n' then ['\n'] else [] := by
      by_cases he : b = '\n' <;> simp [he]
    rw [h.text, ht, hready.column, Nat.sub_zero, hf, hp]
    simp only [List.append_assoc, List.cons_append]
  ways  := .breaks hr hh h.ways
  whole := by
    intro _ hm
    rw [Style.isMultiline, List.any_cons, hr b List.mem_cons_self, Bool.true_or] at hm
    exact absurd rfl hm

end Body

theorem writeSingleBody_wrapped (split start : Bool) (p : Pen) (h0 : column ≠ 0) (hw : column ≤ Pen.width)
    (h : Fit cs) : ∃ w, Body column split p (writeSingleBody column split p start cs) cs w := by
  fun_induction writeSingleBody column split p start cs with
  | case1 p start => exact ⟨[], .ended ..⟩
  | case2 p start cs more rest p' hi =>
    have hm : ' ' :: more = List.replicate (more.length + 1) ' ' := by
      rw [List.replicate_succ, ← takeWhile_space]
    have hc : ' ' :: cs = List.replicate (more.length + 1) ' ' ++ rest := by
      rw [List.replicate_succ, List.cons_append, takeWhile_append_dropWhile_space]
    rw [hc] at h
    have hh : Quoted.Halts rest := h.halts_of_spaces (head?_dropWhile_space cs)
    have ⟨w, hb⟩ := hi h.drop
    by_cases hs : split && p.isFull 0 && more.isEmpty && !start && !rest.isEmpty
    case pos =>
      have hp : p' = p.toColumn column := if_pos hs
      simp only [Bool.and_eq_true, List.isEmpty_iff] at hs
      rw [hp] at hb ⊢
      rw [hc, hs.left.left.right]
      exact ⟨_, hb.fold hs.left.left.left.left hs.left.left.left.right hw hh⟩
    case neg =>
      have hp : p' = p.write (' ' :: more) := if_neg hs
      rw [hp, hm] at hb ⊢
      rw [hc]
      exact ⟨_, hb.spaces hh⟩
  | case3 p start c cs hs hb run p' q hi =>
    have hr : ∀ c ∈ run, Style.isLineBreak c := by
      have ha := List.all_eq_true.mp (List.all_takeWhile (p := Style.isLineBreak) (l := cs))
      exact List.forall_mem_cons.mpr ⟨hb, ha⟩
    have hc : c :: cs = run ++ cs.dropWhile Style.isLineBreak := by
      rw [List.cons_append, List.takeWhile_append_dropWhile]
    have hn : ∀ c ∈ (cs.dropWhile Style.isLineBreak).head?, ¬Style.isLineBreak c := by
      intro d hd hb
      have hn := List.head?_dropWhile_not Style.isLineBreak cs
      rw [hd] at hn
      exact absurd hb (by simpa using hn)
    rw [hc] at h ⊢
    have ⟨w, hb⟩ := hi h.drop
    exact ⟨_, hb.breaks hr h0 (h.halts_of_breaks (List.cons_ne_nil _ _) hr hn)⟩
  | case4 p start cs hs hb hi =>
    have ⟨w, hb⟩ := hi h.tail
    exact ⟨_, hb.quote⟩
  | case5 p start c cs hs hb hq hi =>
    have ⟨w, hw⟩ := hi h.tail
    have hc := (Style.inner_of_not_special (h.plain c List.mem_cons_self) hb).resolve_left hs
    exact ⟨_, hw.char hc hq⟩

end Single
end Yaml
end Gamebook
