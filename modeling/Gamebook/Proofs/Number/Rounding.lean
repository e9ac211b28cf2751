import Mathlib
import Gamebook.Number.Binary64

namespace Gamebook
namespace Binary64

-- How far a number is from zero.
def magnitude : Binary64 → ℚ
  | finite _ m e => m * 2 ^ e
  | _            => 0

-- Half a place above the largest finite number. From here on numbers become infinite.
def ceiling : ℚ :=
  2 ^ (1024 : Int) - 2 ^ (970 : Int)

variable {negative : Bool} {num den : Nat} {e : Int}

theorem snd_scaled_pos (h : 0 < den) : 0 < (scaled num den e).2 :=
  Nat.mul_pos h (Nat.two_pow_pos _)

theorem ratio_scaled (num den : Nat) (e : Int) :
    ((scaled num den e).1 : ℚ) / (scaled num den e).2 = num / den / 2 ^ e := by
  obtain ⟨n, rfl | rfl⟩ := e.eq_nat_or_neg
  · simp [scaled, div_div]
  · simp [scaled, div_mul_eq_mul_div]

theorem snd_scaled_le_fst (h : 0 < den) :
    (scaled num den e).2 ≤ (scaled num den e).1 ↔ (2 : ℚ) ^ e ≤ num / den := by
  have hp : (0 : ℚ) < (scaled num den e).2 := by exact_mod_cast snd_scaled_pos h
  have he : (0 : ℚ) < 2 ^ e := by positivity
  rw [← one_le_div₀ he, ← ratio_scaled, one_le_div₀ hp]
  norm_cast

theorem log2_bounds {n : Nat} (h : n ≠ 0) :
    (2 : ℚ) ^ (n.log2 : Int) ≤ n ∧ (n : ℚ) < 2 ^ (n.log2 + 1 : Int) := by
  constructor
  · exact_mod_cast Nat.log2_self_le h
  · exact_mod_cast Nat.lt_log2_self

section

variable (hn : num ≠ 0) (hd : den ≠ 0)
include hn hd

theorem ratio_bounds : (2 : ℚ) ^ (num.log2 - den.log2 - 1 : Int) < num / den ∧
    (num / den : ℚ) < 2 ^ (num.log2 - den.log2 + 1 : Int) := by
  obtain ⟨hn, hn'⟩ := log2_bounds hn
  obtain ⟨hd, hd'⟩ := log2_bounds hd
  constructor
  · calc (2 : ℚ) ^ (num.log2 - den.log2 - 1 : Int)
      _ = 2 ^ (num.log2 : Int) / 2 ^ (den.log2 + 1 : Int) := by rw [← zpow_sub₀ two_ne_zero, sub_sub]
      _ < num / den := div_lt_div₀' hn hd' (by positivity) (by positivity)
  · calc (num / den : ℚ)
      _ < 2 ^ (num.log2 + 1 : Int) / 2 ^ (den.log2 : Int) := div_lt_div₀ hn' hd (by positivity) (by positivity)
      _ = 2 ^ (num.log2 - den.log2 + 1 : Int) := by
        rw [← zpow_sub₀ two_ne_zero, add_sub_right_comm]

-- The mantissa has 53 digits at most, and as many of them unless the number is close to zero.
theorem ratio_placeExponent : (num / den : ℚ) < 2 ^ (placeExponent num den + 53) ∧
    (placeExponent num den = leastExponent ∨ (2 : ℚ) ^ (placeExponent num den + 52) ≤ num / den) := by
  obtain ⟨hl, hu⟩ := ratio_bounds hn hd
  obtain ⟨e, hm, hb, ha⟩ : ∃ e, placeExponent num den = max e leastExponent ∧
      (2 : ℚ) ^ (e + 52) ≤ num / den ∧ (num / den : ℚ) < 2 ^ (e + 53) := by
    rw [placeExponent]
    simp only [snd_scaled_le_fst (Nat.pos_of_ne_zero hd)]
    split
    case isTrue h  => exact ⟨_, rfl, by simpa using h, by ring_nf at hu ⊢; exact hu⟩
    case isFalse h => exact ⟨_, rfl, by ring_nf at hl ⊢; exact hl.le, by simpa using h⟩
  rw [hm]
  constructor
  · exact ha.trans_le (zpow_le_zpow_right₀ one_le_two (by omega))
  · rcases max_choice e leastExponent with h | h
    · rw [h]
      exact .inr hb
    · exact .inl h

end

-- What is half a place away from the next power of two is rounded up to it.
theorem nearestEven_eq (h : num < 2 ^ 53 * den) :
    nearestEven num den = 2 ^ 53 ↔ (2 ^ 54 - 1) * den ≤ 2 * num := by
  have hd : 0 < den := Nat.pos_of_mul_pos_left (Nat.zero_lt_of_lt h)
  have hr : num % den < den := Nat.mod_lt _ hd
  have hn : den * (num / den) + num % den = num := Nat.div_add_mod ..
  rw [nearestEven]
  have hq : num / den < 2 ^ 53 := Nat.div_lt_of_lt_mul (Nat.mul_comm .. ▸ h)
  rcases (by omega : num / den ≤ 2 ^ 53 - 2 ∨ num / den = 2 ^ 53 - 1) with hq | hq
  · have hm : den * (num / den) ≤ den * (2 ^ 53 - 2) := Nat.mul_le_mul_left den hq
    refine iff_of_false ?_ (by omega)
    split
    · omega
    · split <;> omega
  · rw [hq] at hn ⊢
    split
    case isTrue => omega
    case isFalse =>
      split <;> omega

theorem ceiling_eq : ceiling = (2 ^ 54 - 1) / 2 * 2 ^ greatestExponent := by
  have h : (2 : ℚ) ^ (970 : Int) = 2 ^ greatestExponent / 2 := by
    rw [eq_div_iff two_ne_zero, ← zpow_add_one₀ two_ne_zero]
    rfl
  have h' : (2 : ℚ) ^ (1024 : Int) = 2 ^ (53 : Nat) * 2 ^ greatestExponent := by
    rw [← zpow_natCast, ← zpow_add₀ two_ne_zero]
    rfl
  rw [ceiling, h, h']
  ring

theorem zpow_le_ceiling {k : Int} (h : k ≤ 1023) : (2 : ℚ) ^ k ≤ ceiling := by
  have hk : (2 : ℚ) ^ k ≤ 2 ^ (52 + greatestExponent) := zpow_le_zpow_right₀ one_le_two h
  rw [zpow_add₀ two_ne_zero] at hk
  rw [ceiling_eq]
  refine hk.trans (mul_le_mul_of_nonneg_right (by norm_num) (by positivity))

theorem ceiling_lt_zpow {k : Int} (h : 1024 ≤ k) : ceiling < 2 ^ k :=
  (sub_lt_self _ (by positivity)).trans_le (zpow_le_zpow_right₀ one_le_two h)

theorem isFinite_pack {m : Nat} : (ofRatio.pack negative m e).isFinite ↔ e ≤ greatestExponent := by
  rw [ofRatio.pack]
  split
  case isTrue h  => exact iff_of_false Bool.false_ne_true (by omega)
  case isFalse h => exact iff_of_true rfl (by omega)

theorem isFinite_ofRatio_of_ne (hn : num ≠ 0) :
    (ofRatio negative num den).isFinite ↔ placeExponent num den < greatestExponent ∨
      placeExponent num den = greatestExponent ∧
        nearestEven (scaled num den greatestExponent).1 (scaled num den greatestExponent).2 ≠ 2 ^ 53 := by
  rw [ofRatio, if_neg hn]
  simp only []
  split
  case isTrue h =>
    rw [isFinite_pack]
    refine ⟨fun he => .inl (by omega), fun he => he.elim (by omega) fun he => absurd (he.left ▸ h) he.right⟩
  case isFalse h =>
    rw [isFinite_pack]
    refine ⟨fun he => (lt_or_eq_of_le he).imp_right fun he => ⟨he, he ▸ h⟩, fun he => ?_⟩
    exact he.elim le_of_lt fun he => he.left.le

-- Which numbers do not become infinite?
theorem isFinite_ofRatio (hd : 0 < den) : (ofRatio negative num den).isFinite ↔ (num / den : ℚ) < ceiling := by
  by_cases hn : num = 0
  case pos =>
    refine iff_of_true (by rw [ofRatio, if_pos hn]; rfl) ?_
    rw [hn, Nat.cast_zero, zero_div]
    exact (zpow_pos two_pos 0).trans_le (zpow_le_ceiling (by decide))
  case neg =>
    rw [isFinite_ofRatio_of_ne hn]
    obtain ⟨hu, hl⟩ := ratio_placeExponent hn hd.ne'
    rcases lt_trichotomy (placeExponent num den) greatestExponent with he | he | he
    · have hc : (2 : ℚ) ^ (placeExponent num den + 53) ≤ ceiling :=
        zpow_le_ceiling (by rw [greatestExponent] at he; omega)
      exact iff_of_true (.inl he) (hu.trans_le hc)
    · -- Here it is the last place that decides.
      rw [he] at hu ⊢
      have hs : (0 : ℚ) < (scaled num den greatestExponent).2 := by exact_mod_cast snd_scaled_pos hd
      have hp : (0 : ℚ) < 2 ^ greatestExponent := by positivity
      have hr := ratio_scaled num den greatestExponent
      have hm : (scaled num den greatestExponent).1 < 2 ^ 53 * (scaled num den greatestExponent).2 := by
        rw [zpow_add₀ two_ne_zero, mul_comm, ← div_lt_iff₀ hp, ← hr, div_lt_iff₀ hs] at hu
        exact_mod_cast hu
      rw [or_iff_right (lt_irrefl _), and_iff_right rfl, ne_eq, nearestEven_eq hm, not_le, ceiling_eq,
        ← div_lt_iff₀ hp, ← hr, div_lt_iff₀ hs, div_mul_eq_mul_div, lt_div_iff₀ two_pos,
        mul_comm _ (2 : ℚ)]
      have hc (a b : Nat) : 2 * a < (2 ^ 54 - 1) * b ↔ (2 * a : ℚ) < (2 ^ 54 - 1) * b := by
        rw [← Nat.cast_lt (α := ℚ)]
        norm_num
      exact hc _ _
    · have hc : (2 : ℚ) ^ (placeExponent num den + 52) ≤ num / den :=
        hl.resolve_left (by rw [greatestExponent] at he; rw [leastExponent]; omega)
      have hk : ceiling < (2 : ℚ) ^ (placeExponent num den + 52) :=
        ceiling_lt_zpow (by rw [greatestExponent] at he; omega)
      exact iff_of_false (by omega) (hk.trans_le hc).not_gt

-- Products are rounded once.
theorem isFinite_mul {n n' : Bool} {m m' : Nat} {e e' : Int} :
    ((finite n m e).mul (finite n' m' e')).isFinite ↔
      (finite n m e).magnitude * (finite n' m' e').magnitude < ceiling := by
  have h : (m * m' : ℚ) / 2 ^ (-(e + e')) = m * 2 ^ e * (m' * 2 ^ e') := by
    rw [zpow_neg, div_inv_eq_mul, zpow_add₀ two_ne_zero]
    ring
  rw [mul, isFinite_ofRatio (snd_scaled_pos Nat.one_pos), ratio_scaled, Nat.cast_one, div_one, Nat.cast_mul, h]
  rfl

variable {f : Binary64}

theorem not_isNegative_ofRatio : ¬(ofRatio false num den).isNegative := by
  rw [ofRatio]
  split
  case isTrue  => simp [zero, isNegative]
  case isFalse =>
    simp only [ofRatio.pack]
    split_ifs <;> simp [isNegative]

-- A product with a whole number that is not negative is negative if and only if the number is.
theorem not_isNegative_mul {m' : Nat} {e' : Int} (h : ¬f.isNegative) (hf : f.isFinite) :
    ¬(f.mul (finite false m' e')).isNegative := by
  cases f with
  | finite n m e =>
    cases n with
    | false => exact not_isNegative_ofRatio
    | true  =>
      have hm : m = 0 := by simpa [isNegative] using h
      simp [mul, hm, scaled, ofRatio, zero, isNegative]
  | _ => cases hf

-- What is cut off of a number that is not negative is what it has beyond a whole number.
theorem truncate?_eq_floor (h : ¬f.isNegative) (hf : f.isFinite) : f.truncate? = some ⌊f.magnitude⌋ := by
  cases f with
  | finite n m e =>
    have hr := ratio_scaled m 1 (-e)
    rw [Nat.cast_one, div_one, zpow_neg, div_inv_eq_mul] at hr
    have hq : ⌊(finite n m e).magnitude⌋ = ((scaled m 1 (-e)).1 / (scaled m 1 (-e)).2 : Nat) := by
      rw [magnitude, ← hr]
      exact Rat.floor_natCast_div_natCast _ _
    rw [hq, truncate?]
    cases n with
    | false => simp
    | true  =>
      have hm : m = 0 := by simpa [isNegative] using h
      simp [hm, scaled]
  | _ => cases hf

end Binary64
end Gamebook
