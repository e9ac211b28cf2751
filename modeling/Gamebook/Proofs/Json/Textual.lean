import Mathlib
import Gamebook.Proofs.Json.Codec

namespace Gamebook
namespace Json

-- Data in which only texts and flags occur, and no name twice in one object.
inductive Textual : Json → Prop
  | str (s : String)                  : Textual (.str s)
  | bool (b : Bool)                   : Textual (.bool b)
  | arr (h : ∀ x ∈ xs, Textual x)     : Textual (.arr xs)
  | obj (h : ∀ m ∈ ms, Textual m.snd) : (ms.map Prod.fst).Nodup → Textual (.obj ms)

variable {j : Json} {c : Char} {xs : List Json} {ms : List (String × Json)} {d : Nat}

theorem ne_return_of_mem_newline (h : c ∈ newline d) : c ≠ '\r' := by
  cases List.mem_cons.mp h
  case inl h => exact h ▸ by decide
  case inr h => exact List.eq_of_mem_replicate h ▸ by decide

theorem ne_return_of_mem_hexDigits {n k : Nat} (h : c ∈ Text.hexDigits n k) : c ≠ '\r' := by
  have ⟨i, hi, hd⟩ := Text.exists_of_mem_hexDigits h
  have hr : ∀ i < 16, Text.hexDigit i ≠ '\r' := by decide
  exact hd ▸ hr i hi

theorem ne_return_of_mem_unit {n : Nat} (h : c ∈ unicodeEscape.unit n) : c ≠ '\r' := by
  simp only [unicodeEscape.unit, List.mem_cons] at h
  rcases h with h | h | h
  · exact h ▸ by decide
  · exact h ▸ by decide
  · exact ne_return_of_mem_hexDigits h

theorem ne_return_of_mem_escape {c' : Char} (h : c ∈ escape c') : c ≠ '\r' := by
  have hu {n : Nat} (h : c ∈ unicodeEscape.unit n) := ne_return_of_mem_unit h
  have hq : Text.backslash ≠ '\r' ∧ Text.quotation ≠ '\r' := by decide
  rw [escape] at h
  repeat' split at h
  case' isFalse.isFalse.isFalse.isFalse.isFalse.isFalse.isFalse =>
    rw [unicodeEscape] at h
    split at h
  all_goals grind

theorem ne_return_of_mem_string {s : String} (h : c ∈ writeString s) : c ≠ '\r' := by
  simp only [writeString, List.mem_append, List.mem_cons, List.mem_flatMap, List.not_mem_nil,
    or_false] at h
  rcases h with (h | ⟨_, _, h⟩) | h
  · exact h ▸ by decide
  · exact ne_return_of_mem_escape h
  · exact h ▸ by decide

theorem ne_return_of_mem_items (hx : ∀ x ∈ xs, c ∈ writeIndented d x → c ≠ '\r')
    (h : c ∈ writeItems d xs) : c ≠ '\r' := by
  induction xs with
  | nil => cases h
  | cons x xs hi =>
    simp only [writeItems, List.mem_append, List.mem_cons] at h
    rcases h with ((h | h) | h) | h
    · exact h ▸ by decide
    · exact ne_return_of_mem_newline h
    · exact hx x List.mem_cons_self h
    · exact hi (fun x hm => hx x (List.mem_cons_of_mem _ hm)) h

theorem ne_return_of_mem_members (hx : ∀ m ∈ ms, c ∈ writeIndented d m.2 → c ≠ '\r')
    (h : c ∈ writeMembers d ms) : c ≠ '\r' := by
  induction ms with
  | nil => cases h
  | cons m ms hi =>
    simp only [writeMembers, List.mem_append, List.mem_cons] at h
    rcases h with (((h | h) | h) | h | h | h) | h
    · exact h ▸ by decide
    · exact ne_return_of_mem_newline h
    · exact ne_return_of_mem_string h
    · exact h ▸ by decide
    · exact h ▸ by decide
    · exact hx m List.mem_cons_self h
    · exact hi (fun m hm => hx m (List.mem_cons_of_mem _ hm)) h

theorem ne_return_of_mem_digits {n : Nat} (h : c ∈ Nat.toDigits 10 n) : c ≠ '\r' := by
  have hd := Nat.isDigit_of_mem_toDigits (by decide) (by decide) h
  rintro rfl
  cases hd

theorem ne_return_of_mem_decimal {l : Binary64.Layout} {e : Decimal} (h : c ∈ l.write e) : c ≠ '\r' := by
  have hd {n : Nat} := @ne_return_of_mem_digits c n
  rw [Binary64.Layout.write] at h
  grind [List.mem_of_mem_take, List.mem_of_mem_drop]

theorem ne_return_of_mem_float {f : Binary64} (h : c ∈ writeFloat f) : c ≠ '\r' := by
  rw [writeFloat.eq_def] at h
  split at h
  case h_4 f _ _ _ =>
    rw [Binary64.text.eq_def] at h
    split at h
    case h_4 =>
      rw [String.toList_ofList] at h
      have hd {l : Binary64.Layout} {e : Decimal} := @ne_return_of_mem_decimal c l e
      grind
    all_goals grind
  all_goals
    revert h
    simp
    grind

-- The text of a value has no carriage returns in it.
theorem ne_return_of_mem {j : Json} {d : Nat} (h : c ∈ writeIndented d j) : c ≠ '\r' := by
  match j with
  | .null => revert h; simp [writeIndented]; grind
  | .bool b => revert h; cases b <;> simp [writeIndented, writeBool] <;> grind
  | .int i =>
    have hd {n : Nat} := @ne_return_of_mem_digits c n
    rw [writeIndented, writeInt] at h
    grind
  | .float f => exact ne_return_of_mem_float h
  | .str s => exact ne_return_of_mem_string h
  | .arr [] => revert h; simp [writeIndented]; grind
  | .obj [] => revert h; simp [writeIndented]; grind
  | .arr (x :: xs) =>
    simp only [writeIndented, List.mem_append, List.mem_cons, List.not_mem_nil, or_false] at h
    rcases h with ((((h | h) | h) | h) | h) | h
    · exact h ▸ by decide
    · exact ne_return_of_mem_newline h
    · exact ne_return_of_mem h
    · exact ne_return_of_mem_items (fun y hm hy => ne_return_of_mem hy) h
    · exact ne_return_of_mem_newline h
    · exact h ▸ by decide
  | .obj (m :: ms) =>
    simp only [writeIndented, List.mem_append, List.mem_cons, List.not_mem_nil, or_false] at h
    rcases h with (((((h | h) | h) | h | h | h) | h) | h) | h
    · exact h ▸ by decide
    · exact ne_return_of_mem_newline h
    · exact ne_return_of_mem_string h
    · exact h ▸ by decide
    · exact h ▸ by decide
    · exact ne_return_of_mem h
    · exact ne_return_of_mem_members (fun n hm hn => ne_return_of_mem hn) h
    · exact ne_return_of_mem_newline h
    · exact h ▸ by decide
termination_by sizeOf j
decreasing_by
  · simp only [Json.arr.sizeOf_spec, List.cons.sizeOf_spec]
    omega
  · have := List.sizeOf_lt_of_mem hm
    simp only [Json.arr.sizeOf_spec, List.cons.sizeOf_spec]
    omega
  · cases m
    simp only [Json.obj.sizeOf_spec, List.cons.sizeOf_spec, Prod.mk.sizeOf_spec]
    omega
  · have := List.sizeOf_lt_of_mem hm
    cases n
    simp only [Json.obj.sizeOf_spec, List.cons.sizeOf_spec, Prod.mk.sizeOf_spec] at this ⊢
    omega

theorem no_return (j : Json) : '\r' ∉ j.render.toList := by
  intro h
  rw [render, String.toList_ofList] at h
  exact ne_return_of_mem h rfl

theorem anyItem_eq_false {p : Json → Bool} : anyItem p xs = false ↔ ∀ x ∈ xs, x.anyScalar p = false := by
  induction xs with
  | nil          => exact iff_of_true rfl (List.forall_mem_nil _)
  | cons x xs hi => rw [anyItem, Bool.or_eq_false_iff, hi, List.forall_mem_cons]

theorem anyMember_eq_false {p : Json → Bool} : anyMember p ms = false ↔ ∀ m ∈ ms, m.snd.anyScalar p = false := by
  induction ms with
  | nil          => exact iff_of_true rfl (List.forall_mem_nil _)
  | cons m ms hi => rw [anyMember, Bool.or_eq_false_iff, hi, List.forall_mem_cons]

namespace Textual

theorem recoverable (h : Textual j) : Recoverable j := by
  induction h with
  | str s       => exact .str s
  | bool b      => exact .bool b
  | arr _ hi    => exact .arr hi
  | obj _ hn hi => exact .obj hi hn

theorem read_render (h : Textual j) : read j.render = .ok j :=
  h.recoverable.read_render

theorem anyScalar {p : Json → Bool} (hs : ∀ s, p (.str s) = false) (hb : ∀ b, p (.bool b) = false) (h : Textual j) :
    j.anyScalar p = false := by
  induction h with
  | str s      => exact hs s
  | bool b     => exact hb b
  | arr _ hi   => exact anyItem_eq_false.mpr hi
  | obj _ _ hi => exact anyMember_eq_false.mpr hi

theorem isPortable (h : Textual j) : j.IsPortable :=
  ⟨h.anyScalar (fun _ => rfl) fun _ => rfl, h.anyScalar (fun _ => rfl) fun _ => rfl⟩

end Textual
end Json
end Gamebook
