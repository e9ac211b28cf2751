import Mathlib
import Gamebook.Number.Shortest
import Gamebook.Proofs.Number.Digits
import Gamebook.Proofs.Number.Rounding

namespace Gamebook

def Decimal.value (d : Decimal) : ℚ :=
  d.digits * 10 ^ d.exponent

namespace Binary64

theorem natCast_pow_toNat {a : Nat} (ha : a ≠ 0) (k : Int) :
    ((a ^ k.toNat : Nat) : ℚ) = (a : ℚ) ^ k * (a ^ (-k).toNat : Nat) := by
  have ha : (a : ℚ) ≠ 0 := by exact_mod_cast ha
  obtain ⟨n, rfl | rfl⟩ := k.eq_nat_or_neg
  · simp
  · simp [ha]

namespace Basin

-- Does a real lie in the basin? Whether the ends do depends on the mantissa.
def Holds (b : Basin) (q : ℚ) : Prop :=
  if b.inclusive then b.low * 2 ^ b.exponent ≤ q ∧ q ≤ b.high * 2 ^ b.exponent
  else b.low * 2 ^ b.exponent < q ∧ q < b.high * 2 ^ b.exponent

variable {b : Basin} {k : Int} {x c : Nat} {q : ℚ}

theorem exists_align (b : Basin) (k : Int) (x c : Nat) : ∃ u : ℚ, 0 < u ∧
    ((b.align k x c).1 : ℚ) = x * 2 ^ b.exponent * u ∧ ((b.align k x c).2 : ℚ) = c * 10 ^ k * u := by
  refine ⟨(2 ^ (-b.exponent).toNat : Nat) * (10 ^ (-k).toNat : Nat), by positivity, ?_, ?_⟩
  · have h := natCast_pow_toNat two_ne_zero b.exponent
    push_cast [align] at h ⊢
    rw [h]
    ring
  · have h := natCast_pow_toNat (a := 10) (by decide) k
    push_cast [align] at h ⊢
    rw [h]
    ring

theorem align_le : (b.align k x c).1 ≤ (b.align k x c).2 ↔ (x * 2 ^ b.exponent : ℚ) ≤ c * 10 ^ k := by
  obtain ⟨u, hu, h₁, h₂⟩ := b.exists_align k x c
  rw [← Nat.cast_le (α := ℚ), h₁, h₂, mul_le_mul_iff_left₀ hu]

theorem le_align : (b.align k x c).2 ≤ (b.align k x c).1 ↔ (c * 10 ^ k : ℚ) ≤ x * 2 ^ b.exponent := by
  obtain ⟨u, hu, h₁, h₂⟩ := b.exists_align k x c
  rw [← Nat.cast_le (α := ℚ), h₁, h₂, mul_le_mul_iff_left₀ hu]

theorem contains_iff : b.contains k c ↔ b.Holds (c * 10 ^ k) := by
  rw [contains, Holds]
  cases b.inclusive <;> simp [align_le, le_align, ← not_le]

theorem Holds.low_le (h : b.Holds q) : b.low * 2 ^ b.exponent ≤ q := by
  rw [Holds] at h
  split at h
  · exact h.left
  · exact h.left.le

theorem Holds.le_high (h : b.Holds q) : q ≤ b.high * 2 ^ b.exponent := by
  rw [Holds] at h
  split at h
  · exact h.right
  · exact h.right.le

theorem Holds.of_lt (hl : b.low * 2 ^ b.exponent < q) (hh : q < b.high * 2 ^ b.exponent) : b.Holds q := by
  rw [Holds]
  split
  · exact ⟨hl.le, hh.le⟩
  · exact ⟨hl, hh⟩

-- The multiples of a power of ten between which the value lies.
theorem floor_bounds (b : Basin) (k : Int) {c : Nat} (hc : c = (b.align k b.value 1).1 / (b.align k b.value 1).2) :
    (c * 10 ^ k : ℚ) ≤ b.value * 2 ^ b.exponent ∧ (b.value * 2 ^ b.exponent : ℚ) < (c + 1 : Nat) * 10 ^ k := by
  obtain ⟨u, hu, h₁, h₂⟩ := b.exists_align k b.value 1
  rw [Nat.cast_one, one_mul] at h₂
  have hp : 0 < (b.align k b.value 1).2 := by
    have : (0 : ℚ) < (b.align k b.value 1).2 := h₂ ▸ by positivity
    exact_mod_cast this
  have hl : c * (b.align k b.value 1).2 ≤ (b.align k b.value 1).1 := hc ▸ Nat.div_mul_le_self ..
  have hh : (b.align k b.value 1).1 < (c + 1) * (b.align k b.value 1).2 :=
    hc ▸ Nat.lt_mul_of_div_lt (Nat.lt_succ_self _) hp
  rw [← Nat.cast_le (α := ℚ), Nat.cast_mul, h₁, h₂, ← mul_assoc, mul_le_mul_iff_left₀ hu] at hl
  rw [← Nat.cast_lt (α := ℚ), Nat.cast_mul, h₁, h₂, ← mul_assoc, mul_lt_mul_iff_left₀ hu] at hh
  exact ⟨hl, hh⟩

theorem nearestEven_eq_or (num den : Nat) :
    nearestEven num den = num / den ∨ nearestEven num den = num / den + 1 := by
  rw [nearestEven]
  split
  · exact .inl rfl
  · split
    · exact .inr rfl
    · omega

-- What is chosen lies in the basin.
theorem holds_of_nearest? (h : b.nearest? k = some c) : b.Holds (c * 10 ^ k) := by
  rw [← contains_iff]
  simp only [nearest?] at h
  split at h
  case h_1 hc hc' =>
    cases h
    rcases nearestEven_eq_or (b.align k b.value 1).1 (b.align k b.value 1).2 with he | he
    · rwa [he]
    · rwa [he]
  case h_2 hc _ =>
    cases h
    exact hc
  case h_3 hc =>
    cases h
    exact hc
  case h_4 => cases h

-- Something is chosen where the multiples lie closer than the basin is wide on either side.
theorem exists_nearest? (hl : (10 : ℚ) ^ k < 2 * ((b.value - b.low) * 2 ^ b.exponent))
    (hh : (10 : ℚ) ^ k < 2 * ((b.high - b.value) * 2 ^ b.exponent)) : ∃ c, b.nearest? k = some c := by
  obtain ⟨c, hc⟩ : ∃ c, c = (b.align k b.value 1).1 / (b.align k b.value 1).2 := ⟨_, rfl⟩
  obtain ⟨hc₁, hc₂⟩ := b.floor_bounds k hc
  have hn : b.contains k c ∨ b.contains k (c + 1) := by
    simp only [contains_iff]
    push_cast at hc₂ ⊢
    rcases le_total (b.value * 2 ^ b.exponent - c * 10 ^ k : ℚ) ((c + 1) * 10 ^ k - b.value * 2 ^ b.exponent)
      with hd | hd
    · exact .inl (.of_lt (by linarith) (by linarith))
    · exact .inr (.of_lt (by linarith) (by linarith))
  simp only [nearest?, ← hc]
  rcases hn with hn | hn
  · rw [hn]
    cases b.contains k (c + 1) <;> exact ⟨_, rfl⟩
  · rw [hn]
    cases b.contains k c <;> exact ⟨_, rfl⟩

-- How many digits there are in a quotient tells how large the quotient is.

theorem pow_length_mul_le {num den : Nat} (hd : 0 < den) (h : den ≤ num) :
    10 ^ ((Nat.toDigits 10 (num / den)).length - 1) * den ≤ num := by
  have hl : 10 ^ ((Nat.toDigits 10 (num / den)).length - 1) ≤ num / den :=
    Numeral.pow_length_toDigits_le (Nat.div_pos h hd).ne'
  exact (Nat.mul_le_mul_right den hl).trans (Nat.div_mul_le_self ..)

theorem lt_pow_length_mul {num den : Nat} (hd : 0 < den) : num < 10 ^ (Nat.toDigits 10 (num / den)).length * den :=
  Nat.lt_mul_of_div_lt (Numeral.lt_pow_length_toDigits _) hd

-- The value has no digit above its magnitude, and one right below it.
theorem zpow_magnitude_le (hv : b.value ≠ 0) : (10 : ℚ) ^ (b.magnitude - 1) ≤ b.value * 2 ^ b.exponent := by
  obtain ⟨num, hn⟩ : ∃ num, num = b.value * 2 ^ b.exponent.toNat := ⟨_, rfl⟩
  obtain ⟨den, hd⟩ : ∃ den, den = 2 ^ (-b.exponent).toNat := ⟨_, rfl⟩
  have hd₀ : 0 < den := hd ▸ Nat.two_pow_pos _
  have hn₀ : 0 < num := hn ▸ Nat.mul_pos (Nat.pos_of_ne_zero hv) (Nat.two_pow_pos _)
  have hd₁ : (0 : ℚ) < den := by exact_mod_cast hd₀
  have hr : (b.value * 2 ^ b.exponent : ℚ) = num / den := by
    rw [eq_div_iff hd₁.ne', hn, hd, Nat.cast_mul, natCast_pow_toNat two_ne_zero b.exponent]
    push_cast
    ring
  rw [hr, magnitude, ← hn, ← hd, le_div_iff₀ hd₁]
  simp only []
  split
  case isTrue h =>
    have hp : 0 < (Nat.toDigits 10 (num / den)).length := Nat.length_toDigits_pos
    rw [← Nat.cast_one, ← Nat.cast_sub hp, zpow_natCast]
    exact_mod_cast pow_length_mul_le hd₀ h
  case isFalse =>
    obtain ⟨z, hz⟩ : ∃ z, z + 1 = (Nat.toDigits 10 (den / num)).length :=
      Nat.exists_add_one_eq.mpr Nat.length_toDigits_pos
    rw [← hz, Nat.add_sub_cancel]
    split
    case isTrue h =>
      rw [sub_sub_cancel_left, zpow_neg, zpow_natCast, inv_mul_le_iff₀ (by positivity), mul_comm]
      exact_mod_cast h
    case isFalse =>
      have hm : den < 10 ^ (z + 1) * num := hz ▸ lt_pow_length_mul hn₀
      rw [← neg_add', zpow_neg, ← Nat.cast_one, ← Nat.cast_add, zpow_natCast, inv_mul_le_iff₀ (by positivity)]
      exact_mod_cast hm.le

end Basin

section

variable {m : Nat} {e : Int} {q : ℚ} {d : Decimal}

theorem low_basin (hm : m ≠ 0) :
    ((basin m e).low : ℚ) = 4 * m - if m = 2 ^ 52 ∧ leastExponent < e then 1 else 2 := by
  have h : 2 ≤ 4 * m := by omega
  rw [basin]
  split
  · push_cast [Nat.cast_sub (Nat.one_le_of_lt h)]
    ring
  · push_cast [Nat.cast_sub h]
    ring

theorem pos_of_holds (hm : m ≠ 0) (h : (basin m e).Holds q) : 0 < q := by
  have hl : (0 : ℚ) < (basin m e).low := by
    have h₁ : (1 : ℚ) ≤ m := by exact_mod_cast Nat.one_le_iff_ne_zero.mpr hm
    rw [low_basin hm]
    split <;> linarith
  exact (mul_pos hl (by positivity)).trans_le h.low_le

-- Seventeen digits are always enough.
theorem exists_nearest?_basin (hm : m ≠ 0) (hu : m < 2 ^ 53) :
    ∃ c, (basin m e).nearest? ((basin m e).magnitude - 17) = some c := by
  have hk : (10 : ℚ) ^ ((basin m e).magnitude - 17) ≤ 4 * m * 2 ^ (e - 2) / 10 ^ 16 := by
    have hv : (basin m e).value ≠ 0 := Nat.mul_ne_zero (by decide) hm
    have hp : (10 : ℚ) ^ ((basin m e).magnitude - 1) ≤ (4 * m : Nat) * 2 ^ (e - 2) := Basin.zpow_magnitude_le hv
    rw [le_div_iff₀ (by norm_num), ← zpow_natCast, ← zpow_add₀ (by norm_num)]
    refine (le_of_eq ?_).trans (hp.trans (by push_cast; rfl))
    congr 1
    push_cast
    ring
  have hp : (0 : ℚ) < 2 ^ (e - 2) := by positivity
  have hu : (m : ℚ) + 1 ≤ 2 ^ 53 := by exact_mod_cast hu
  have hl : (4 * m / 10 ^ 16 : ℚ) < 2 * ((basin m e).value - (basin m e).low) := by
    rw [low_basin hm, basin]
    push_cast
    split
    case isTrue h =>
      rw [h.left]
      norm_num
    case isFalse =>
      rw [div_lt_iff₀ (by norm_num)]
      linarith
  have hh : (4 * m / 10 ^ 16 : ℚ) < 2 * ((basin m e).high - (basin m e).value) := by
    rw [basin, div_lt_iff₀ (by norm_num)]
    push_cast
    linarith
  rw [mul_div_right_comm] at hk
  apply Basin.exists_nearest?
  · exact hk.trans_lt ((mul_lt_mul_of_pos_right hl hp).trans_eq (mul_assoc ..))
  · exact hk.trans_lt ((mul_lt_mul_of_pos_right hh hp).trans_eq (mul_assoc ..))

-- The decimal that is written for a number lies in its basin.
theorem holds_shortest (hm : m ≠ 0) (hu : m < 2 ^ 53) : (basin m e).Holds (shortest m e).value := by
  obtain ⟨c, hc⟩ := exists_nearest?_basin (e := e) hm hu
  rw [shortest]
  cases hf : (List.range' 1 17).findSome? fun (n : Nat) => ((basin m e).nearest? ((basin m e).magnitude - n)).map
      fun c => if c = 10 ^ n then (⟨1, (basin m e).magnitude⟩ : Decimal) else ⟨c, (basin m e).magnitude - n⟩ with
  | none   =>
    have h := List.findSome?_eq_none_iff.mp hf 17 (by decide)
    rw [Option.map_eq_none_iff] at h
    exact absurd (hc.symm.trans h) (by simp)
  | some d =>
    obtain ⟨n, _, hd⟩ := List.exists_of_findSome?_eq_some hf
    obtain ⟨c, hc, rfl⟩ := Option.map_eq_some_iff.mp hd
    have hh := Basin.holds_of_nearest? hc
    rw [Option.getD_some]
    split
    case isTrue h =>
      have he : (c * 10 ^ ((basin m e).magnitude - n) : ℚ) = 10 ^ (basin m e).magnitude := by
        rw [h, Nat.cast_pow, ← zpow_natCast, Nat.cast_ofNat, ← zpow_add₀ (by norm_num), add_sub_cancel]
      rw [Decimal.value, Nat.cast_one, one_mul, ← he]
      exact hh
    case isFalse => exact hh

theorem digits_shortest_ne_zero (hm : m ≠ 0) (hu : m < 2 ^ 53) : (shortest m e).digits ≠ 0 := by
  intro h
  have hp : 0 < (shortest m e).value := pos_of_holds hm (holds_shortest hm hu)
  rw [Decimal.value, h, Nat.cast_zero, zero_mul] at hp
  exact lt_irrefl _ hp

end
end Binary64
end Gamebook
