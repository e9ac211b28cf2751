import Mathlib
import Gamebook.Number.Numeral
import Gamebook.Time.Timestamp

namespace Gamebook

namespace Numeral

-- Decimal notation, and the number that is read from it.

variable {c : Char} {n w : Nat} {cs : List Char}

theorem isDigit_of_mem (h : c ∈ Nat.toDigits 10 n) : c.isDigit :=
  Nat.isDigit_of_mem_toDigits (by decide) (by decide) h

theorem ofDigits_toDigits (n : Nat) : ofDigits (Nat.toDigits 10 n) = n :=
  Nat.ofDigitChars_toDigits (by decide) (by decide)

theorem ofDigits_zeros : ofDigits (List.replicate w '0' ++ cs) = ofDigits cs := by
  rw [ofDigits, Nat.ofDigitChars_append, Nat.ofDigitChars_replicate_zero, Nat.mul_zero, ofDigits]

-- Only zero is written with a zero in front.
theorem head?_toDigits (h : n ≠ 0) : (Nat.toDigits 10 n).head? ≠ some '0' := by
  induction n using Nat.strongRecOn with
  | _ n hi =>
    by_cases hn : n < 10
    case pos =>
      rw [Nat.toDigits_of_lt_base hn]
      have hd : ∀ n < 10, n ≠ 0 → [n.digitChar].head? ≠ some '0' := by decide
      exact hd n hn h
    case neg =>
      rw [Nat.toDigits_eq_if (by decide), if_neg hn, List.head?_append_of_ne_nil _ Nat.toDigits_ne_nil]
      exact hi (n / 10) (by omega) (by omega)

theorem lt_pow_length_toDigits (n : Nat) : n < 10 ^ (Nat.toDigits 10 n).length :=
  (Nat.length_toDigits_le_iff (by decide) Nat.length_toDigits_pos).mp le_rfl

theorem pow_length_toDigits_le (h : n ≠ 0) : 10 ^ ((Nat.toDigits 10 n).length - 1) ≤ n := by
  have hp : 0 < (Nat.toDigits 10 n).length := Nat.length_toDigits_pos
  rcases Nat.eq_zero_or_pos ((Nat.toDigits 10 n).length - 1) with hl | hl
  · rw [hl]
    exact Nat.one_le_iff_ne_zero.mpr h
  · rw [← Nat.not_lt, ← Nat.length_toDigits_le_iff (by decide) hl]
    omega

theorem ofDigits_cons : ofDigits (c :: cs) = 10 ^ cs.length * (c.toNat - '0'.toNat) + ofDigits cs := by
  rw [ofDigits, Nat.ofDigitChars_cons, Nat.mul_zero, Nat.zero_add, Nat.ofDigitChars_eq_ofDigitChars_zero, ofDigits]

theorem ofDigits_lt (hd : ∀ c ∈ cs, c.isDigit) : ofDigits cs < 10 ^ cs.length := by
  induction cs with
  | nil          => decide
  | cons c cs hi =>
    obtain ⟨hc, hd⟩ := List.forall_mem_cons.mp hd
    have hc : c.toNat - '0'.toNat ≤ 9 := by
      simp [Char.isDigit, UInt32.le_iff_toNat_le] at hc
      simp
      omega
    have := Nat.mul_le_mul_left (10 ^ cs.length) hc
    have := hi hd
    rw [ofDigits_cons, List.length_cons, Nat.pow_succ]
    omega

-- Digits of which the first is no zero stand for a number with as many.
theorem pow_le_ofDigits (hc : c.isDigit) (hz : c ≠ '0') : 10 ^ cs.length ≤ ofDigits (c :: cs) := by
  have hc : 1 ≤ c.toNat - '0'.toNat := by
    have hn : c.toNat ≠ 48 := fun h => hz (Char.toNat_inj.mp h)
    simp [Char.isDigit, UInt32.le_iff_toNat_le] at hc
    simp
    omega
  rw [ofDigits_cons]
  exact (Nat.le_mul_of_pos_right _ hc).trans (Nat.le_add_right _ _)

end Numeral

variable {c : Char} {w n : Nat}

theorem length_padded (hw : 0 < w) (h : n < 10 ^ w) : (padded w n).length = w := by
  have := (Nat.length_toDigits_le_iff (by decide) hw).mpr h
  rw [padded, List.length_append, List.length_replicate]
  omega

theorem isDigit_of_mem_padded (h : c ∈ padded w n) : c.isDigit := by
  cases List.mem_append.mp h
  case inl h => exact List.eq_of_mem_replicate h ▸ by decide
  case inr h => exact Numeral.isDigit_of_mem h

theorem ofDigits_padded (w n : Nat) : Numeral.ofDigits (padded w n) = n :=
  Numeral.ofDigits_zeros.trans (Numeral.ofDigits_toDigits n)

end Gamebook
