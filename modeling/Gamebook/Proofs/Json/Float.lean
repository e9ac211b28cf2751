import Mathlib
import Gamebook.Proofs.Json.Textual
import Gamebook.Proofs.Number.Written

namespace Gamebook
namespace Json

open Numeral

variable {s : Spelling} {rest : List Char} {n : Bool} {m : Nat} {e : Int}

theorem not_isDigit_of_ends (h : Ends rest) {c : Char} (hc : c = '.' ∨ c = 'e' ∨ c ∈ rest.head?) : ¬c.isDigit := by
  rcases hc with rfl | rfl | hc
  · decide
  · decide
  · exact (h c hc).right

-- The parts of a number are found one after the other.

theorem wholePart_spelling (hs : s.IsSound) (h : Ends rest) :
    wholePart (s.whole ++ (s.pointed ++ s.powered ++ rest)) = s.whole := by
  rcases hs.leading with hw | ⟨hn, hz⟩
  · rw [hw]
    rfl
  · have hd : (splitDigits (s.whole ++ (s.pointed ++ s.powered ++ rest))).1 = s.whole :=
      congrArg Prod.fst (splitDigits_append hs.whole fun c hc => not_isDigit_of_ends h (Spelling.head?_pointed hc))
    rw [wholePart.eq_def]
    split
    case h_1 he =>
      rw [← List.head?_append_of_ne_nil _ hn, he] at hz
      exact absurd rfl hz
    case h_2 => exact hd

theorem fraction_spelling (hs : s.IsSound) (h : Ends rest) :
    fraction (s.pointed ++ (s.powered ++ rest)) = s.pointed := by
  rw [Spelling.pointed]
  by_cases hp : s.places = []
  case pos =>
    rw [if_pos hp, List.nil_append, fraction.eq_def]
    split
    case h_1 he =>
      have hc : '.' ∈ (s.powered ++ rest).head? := by simp [he]
      rcases Spelling.head?_powered hc with hc | hc
      · cases hc
      · exact absurd (h _ hc).left (by decide)
    case h_2 => rfl
  case neg =>
    have hd : (s.places ++ (s.powered ++ rest)).takeWhile (·.isDigit) = s.places :=
      congrArg Prod.fst (splitDigits_append hs.places fun c hc =>
        not_isDigit_of_ends h (.inr (Spelling.head?_powered hc)))
    rw [if_neg hp, List.cons_append, fraction]
    simp [hd, hp]

theorem exponent_spelling (h : Ends rest) : exponent (s.powered ++ rest) = s.powered := by
  rw [Spelling.powered]
  cases s.power with
  | none   => exact exponent_eq_nil h
  | some x =>
    have hn : (padded 2 x.natAbs).isEmpty = false := by simp [padded]
    have hd : (padded 2 x.natAbs ++ rest).takeWhile (·.isDigit) = padded 2 x.natAbs :=
      takeWhile_digits (fun _ => isDigit_of_mem_padded) h
    have hg : [if x < 0 then '-' else '+'].filter (fun c => c = '+' || c = '-') = [if x < 0 then '-' else '+'] := by
      split <;> rfl
    simp only [Option.elim_some, List.cons_append, exponent, decide_true, Bool.true_or, if_true, List.take_succ_cons,
      List.take_zero, hg, List.length_singleton, List.drop_succ_cons, List.drop_zero, hd, hn, Bool.false_eq_true,
      if_false, List.nil_append]

theorem readNumber_spelling (hs : s.IsSound) (hf : s.IsFractional) (h : Ends rest) :
    readNumber ((if n then ['-'] else []) ++ s.text ++ rest) =
      .ok (.float ((unsigned? n s.text).getD .nan), ((if n then ['-'] else []) ++ s.text).length) := by
  obtain ⟨sign, hg⟩ : ∃ sign, sign = if n then ['-'] else [] := ⟨_, rfl⟩
  rw [← hg]
  have hg' : ((sign ++ s.text ++ rest).take 1).filter (· = '-') = sign := by
    cases n with
    | true  =>
      rw [hg]
      rfl
    | false =>
      obtain ⟨c, cs, hw⟩ := List.exists_cons_of_ne_nil hs.whole_ne_nil
      have hc : c ≠ '-' := ne_of_isDigit (hs.whole c (hw ▸ List.mem_cons_self)) (by decide)
      rw [hg, Spelling.text, hw]
      simp [hc]
  have hn : (!sign.isEmpty) = n := by
    cases n <;> simp [hg]
  have ht : (sign ++ s.text ++ rest).drop sign.length = s.whole ++ (s.pointed ++ s.powered ++ rest) := by
    rw [List.append_assoc, List.drop_left' rfl, Spelling.text, List.append_assoc]
  have hw : s.whole.isEmpty = false := by simpa using hs.whole_ne_nil
  have he : (s.pointed.isEmpty && s.powered.isEmpty) = false := by
    rcases hf with hf | hf
    · simp [Spelling.pointed, hf]
    · obtain ⟨x, hx⟩ := Option.ne_none_iff_exists'.mp hf
      simp [Spelling.powered, hx]
  have hf : (s.whole ++ (s.pointed ++ s.powered ++ rest)).drop s.whole.length = s.pointed ++ (s.powered ++ rest) := by
    rw [List.drop_left' rfl, List.append_assoc]
  have hx : (s.whole ++ (s.pointed ++ s.powered ++ rest)).drop (s.whole.length + s.pointed.length) =
      s.powered ++ rest := by
    rw [← List.drop_drop, hf, List.drop_left' rfl]
  simp only [readNumber, hg', ht, wholePart_spelling hs h, hf, fraction_spelling hs h, hx, exponent_spelling h, hw, he,
    hn, Bool.false_eq_true, if_false]
  rw [List.append_assoc s.whole, ← Spelling.text, List.length_append, Spelling.text, List.length_append,
    List.length_append, Nat.add_assoc, Nat.add_assoc]

theorem startsNumber_text (hs : s.IsSound) : StartsNumber ((if n then ['-'] else []) ++ s.text) := by
  obtain ⟨c, cs, hw⟩ := List.exists_cons_of_ne_nil hs.whole_ne_nil
  have hc : c.isDigit := hs.whole c (hw ▸ List.mem_cons_self)
  rw [Spelling.text, hw]
  cases n with
  | true  => exact ⟨_, _, rfl, .inr ⟨rfl, _, _, rfl, hc⟩⟩
  | false => exact ⟨_, _, rfl, .inl hc⟩

-- Every number is read as itself.
theorem Recoverable.float {f : Binary64} (h : f.Canonical) : Recoverable (.float f) := by
  cases f with
  | nan =>
    refine ⟨fun _ rest _ => ?_, fun _ => ⟨'N', _, rfl, by decide, by decide⟩⟩
    exact reads_scalar (by decide) (by decide) (by decide) (n := 3) rfl
  | infinite n =>
    cases n with
    | false =>
      refine ⟨fun _ rest _ => ?_, fun _ => ⟨'I', _, rfl, by decide, by decide⟩⟩
      exact reads_scalar (by decide) (by decide) (by decide) (n := 8) rfl
    | true  =>
      refine ⟨fun _ rest _ => ?_, fun _ => ⟨'-', _, rfl, by decide, by decide⟩⟩
      exact reads_scalar (by decide) (by decide) (by decide) (n := 9) rfl
  | finite n m e =>
    obtain ⟨s, ht, hs, hf, hu⟩ := Binary64.exists_spelling_text h
    have hw : ∀ depth, writeIndented depth (.float (.finite n m e)) = (if n then ['-'] else []) ++ s.text := fun _ => ht
    apply of_startsNumber hw (startsNumber_text hs)
    intro rest hr
    rw [readScalar, find?_words_of_startsNumber (startsNumber_text hs).append]
    simp only []
    rw [readNumber_spelling hs hf hr, hu, Option.getD_some]

end Json
end Gamebook
