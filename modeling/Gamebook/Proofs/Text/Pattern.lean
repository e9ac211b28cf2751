import Mathlib
import Gamebook.Text.Pattern

namespace Gamebook
namespace Pattern

variable {r s : Pattern} {c : Char} {cs ds : List Char} {ws : List String}

-- What a pattern matches, constructor by constructor.

theorem matchesAll_cons : r.matchesAll (c :: cs) = (r.derivative c).matchesAll cs :=
  rfl

theorem matchesAll_fail : fail.matchesAll cs = false := by
  induction cs with
  | nil          => rfl
  | cons c cs hi => exact hi

theorem eq_fail_of_isFail (h : r.isFail) : r = fail := by
  cases r <;> first | rfl | cases h

theorem matchesAll_alt : (alt r s).matchesAll cs = (r.matchesAll cs || s.matchesAll cs) := by
  induction cs generalizing r s with
  | nil          => rfl
  | cons c cs hi =>
    simp only [matchesAll_cons, derivative, or']
    split
    case isTrue h  => rw [eq_fail_of_isFail h, matchesAll_fail, Bool.false_or]
    case isFalse   =>
      split
      case isTrue h => rw [eq_fail_of_isFail h, matchesAll_fail, Bool.or_false]
      case isFalse  => exact hi

-- A text that is matched as it is.
def literally (cs : List Char) : Pattern :=
  cs.foldr (fun c r => seq (char c) r) empty

theorem not_isFail_literally : ¬(literally cs).isFail := by
  cases cs <;> exact Bool.false_ne_true

theorem derivative_literally {d : Char} :
    (literally (d :: cs)).derivative c = if c = d then literally cs else fail := by
  have hd : (literally (d :: cs)).derivative c = then' (if c = d then empty else fail) (literally cs) := by
    simp [literally, derivative, char, nullable]
  have hf : (literally cs).isFail = false := Bool.eq_false_iff.mpr not_isFail_literally
  rw [hd]
  split
  case isTrue  => simp [then', isFail.eq_2, hf]
  case isFalse => rfl

theorem matchesAll_literally : (literally cs).matchesAll ds ↔ ds = cs := by
  induction cs generalizing ds with
  | nil =>
    cases ds with
    | nil      => exact iff_of_true rfl rfl
    | cons d ds =>
      have hf : (literally []).matchesAll (d :: ds) = false := matchesAll_fail
      rw [hf]
      exact iff_of_false Bool.false_ne_true (List.cons_ne_nil _ _)
  | cons c cs hi =>
    cases ds with
    | nil       => exact iff_of_false Bool.false_ne_true (List.cons_ne_nil _ _).symm
    | cons d ds =>
      rw [matchesAll_cons, derivative_literally, List.cons_eq_cons]
      split
      case isTrue h  => rw [hi, and_iff_right h]
      case isFalse h => simp [matchesAll_fail, h]

theorem matchesAll_words : (words ws).matchesAll cs ↔ ∃ w ∈ ws, cs = w.toList := by
  induction ws with
  | nil          => simp [words, matchesAll_fail]
  | cons w ws hi =>
    have hw : (word w).matchesAll cs ↔ cs = w.toList := matchesAll_literally
    have hs : words (w :: ws) = alt (word w) (words ws) := rfl
    simp [hs, matchesAll_alt, hw, hi]

theorem matchesLine_eq (h : cs.getLast? ≠ some '\n') : r.matchesLine cs = r.matchesAll cs := by
  simp [matchesLine, h]

end Pattern
end Gamebook
