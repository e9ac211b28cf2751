import Mathlib
import Gamebook.Text.Quoted

namespace Gamebook
namespace Text

theorem hexValue?_hexDigit {d : Nat} (h : d < 16) : hexValue? (hexDigit d) = some d := by
  revert d
  decide

theorem hexValue?_toUpper_hexDigit {d : Nat} (h : d < 16) :
    hexValue? (hexDigit d).toUpper = some d := by
  revert d
  decide

theorem length_hexDigits (width n : Nat) : (hexDigits width n).length = width := by
  induction width generalizing n with
  | zero          => rfl
  | succ width hi => rw [hexDigits, List.length_append, hi]; rfl

theorem exists_of_mem_hexDigits {width n : Nat} {c : Char} (h : c ∈ hexDigits width n) :
    ∃ d < 16, hexDigit d = c := by
  induction width generalizing n with
  | zero          => cases h
  | succ width hi =>
    rw [hexDigits, List.mem_append, List.mem_singleton] at h
    cases h
    case inl h => exact hi h
    case inr h => exact ⟨_, Nat.mod_lt _ (by decide), h.symm⟩

end Text
end Gamebook
