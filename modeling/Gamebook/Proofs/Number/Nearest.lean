import Mathlib
import Gamebook.Proofs.Number.Basin

namespace Gamebook
namespace Binary64

variable {num den m : Nat} {e : Int} {q : ℚ} {negative : Bool}

-- What is not more than half a place away is rounded, and from half a place only to what is even.
theorem nearestEven_of_near (hl : 2 * (den * m) ≤ 2 * num + den) (hh : 2 * num ≤ 2 * (den * m) + den) (hd : 0 < den)
    (ht : m % 2 = 0 ∨ 2 * (den * m) < 2 * num + den ∧ 2 * num < 2 * (den * m) + den) : nearestEven num den = m := by
  have hr : num % den < den := Nat.mod_lt _ hd
  have hn : den * (num / den) + num % den = num := Nat.div_add_mod ..
  rw [nearestEven]
  generalize num / den = k at hn ⊢
  rcases (by omega : k + 2 ≤ m ∨ k + 1 = m ∨ k = m ∨ m + 1 ≤ k) with hk | rfl | rfl | hk
  · have := Nat.mul_le_mul_left den hk
    rw [Nat.mul_add] at this
    omega
  · rw [Nat.mul_add] at hl hh ht
    split
    · omega
    · split <;> omega
  · split
    · rfl
    · split <;> omega
  · have := Nat.mul_le_mul_left den hk
    rw [Nat.mul_add] at this
    omega

theorem zpow_sub_two : (2 : ℚ) ^ (e - 2) = 2 ^ e / 4 := by
  rw [zpow_sub₀ two_ne_zero]
  norm_num

section

variable (hm : m ≠ 0) (h : (basin m e).Holds q)
include hm h

theorem le_of_holds : (m - 1 / 2) * 2 ^ e ≤ q := by
  have hl := h.low_le
  have hp : (0 : ℚ) < 2 ^ e := by positivity
  rw [low_basin hm, show (basin m e).exponent = e - 2 from rfl, zpow_sub_two] at hl
  split at hl <;> linarith

-- Below a power of two the numbers lie twice as close.
theorem le_of_holds_power (hp : m = 2 ^ 52) (he : leastExponent < e) : (m - 1 / 4) * 2 ^ e ≤ q := by
  have hl := h.low_le
  rw [low_basin hm, show (basin m e).exponent = e - 2 from rfl, zpow_sub_two, if_pos ⟨hp, he⟩] at hl
  linarith

omit hm in
theorem le_half_of_holds : q ≤ (m + 1 / 2) * 2 ^ e := by
  have hh := h.le_high
  rw [show (basin m e).high = 4 * m + 2 from rfl, show (basin m e).exponent = e - 2 from rfl, zpow_sub_two] at hh
  push_cast at hh
  linarith

theorem even_or_lt_of_holds : m % 2 = 0 ∨ (m - 1 / 2) * 2 ^ e < q ∧ q < (m + 1 / 2) * 2 ^ e := by
  have hp : (0 : ℚ) < 2 ^ e := by positivity
  have hi : (basin m e).inclusive = decide (m % 2 = 0) := rfl
  rw [Basin.Holds, hi] at h
  by_cases he : m % 2 = 0
  case pos => exact .inl he
  case neg =>
    rw [if_neg (by simpa using he), low_basin hm, show (basin m e).high = 4 * m + 2 from rfl,
      show (basin m e).exponent = e - 2 from rfl, zpow_sub_two] at h
    obtain ⟨hl, hh⟩ := h
    push_cast at hh
    refine .inr ⟨?_, by linarith⟩
    split at hl <;> linarith

end

-- Where the last place is that of the number, the mantissa is found by rounding.
theorem nearestEven_scaled (hm : m ≠ 0) (hd : 0 < den) (h : (basin m e).Holds (num / den)) :
    nearestEven (scaled num den e).1 (scaled num den e).2 = m := by
  have hp : (0 : ℚ) < 2 ^ e := by positivity
  have hs : 0 < (scaled num den e).2 := snd_scaled_pos hd
  have hs' : (0 : ℚ) < (scaled num den e).2 := by exact_mod_cast hs
  have hr : (num / den : ℚ) = (scaled num den e).1 / (scaled num den e).2 * 2 ^ e := by
    rw [ratio_scaled, div_mul_cancel₀ _ hp.ne']
  have hl := le_of_holds hm h
  have hh := le_half_of_holds h
  have ht := even_or_lt_of_holds hm h
  rw [hr] at hl hh ht
  rw [mul_le_mul_iff_left₀ hp, le_div_iff₀ hs'] at hl
  rw [mul_le_mul_iff_left₀ hp, div_le_iff₀ hs'] at hh
  rw [mul_lt_mul_iff_left₀ hp, mul_lt_mul_iff_left₀ hp, lt_div_iff₀ hs', div_lt_iff₀ hs'] at ht
  generalize (scaled num den e).1 = a at *
  generalize (scaled num den e).2 = b at *
  apply nearestEven_of_near _ _ hs
  · apply ht.imp_right
    rintro ⟨hl, hh⟩
    constructor
    all_goals
      qify
      linarith
  all_goals
    qify
    linarith

theorem leastExponent_le_placeExponent : leastExponent ≤ placeExponent num den :=
  le_max_right ..

theorem lt_placeExponent {k : Int} (hn : num ≠ 0) (hd : den ≠ 0) (hk : (2 : ℚ) ^ k ≤ num / den) :
    k < placeExponent num den + 53 :=
  (zpow_lt_zpow_iff_right₀ one_lt_two).mp (hk.trans_lt (ratio_placeExponent hn hd).left)

theorem placeExponent_le_of_holds (hn : num ≠ 0) (hd : den ≠ 0) (hc : (finite negative m e).Canonical)
    (h : (basin m e).Holds (num / den)) : placeExponent num den ≤ e := by
  rcases (ratio_placeExponent hn hd).right with hr | hr
  · exact hr ▸ hc.right.left
  · have hp : (0 : ℚ) < 2 ^ e := by positivity
    have hu : (m : ℚ) + 1 ≤ 2 ^ (53 : Int) := by exact_mod_cast hc.left
    have hq : (num / den : ℚ) < 2 ^ (53 + e) := by
      rw [zpow_add₀ two_ne_zero]
      exact (le_half_of_holds h).trans_lt (mul_lt_mul_of_pos_right (by linarith) hp)
    have := (zpow_lt_zpow_iff_right₀ one_lt_two).mp (hr.trans_lt hq)
    omega

-- The last place of a number and that of what lies in its basin are the same, but right below a power of
-- two.
theorem placeExponent_of_holds (hn : num ≠ 0) (hd : den ≠ 0) (hm : m ≠ 0) (hc : (finite negative m e).Canonical)
    (h : (basin m e).Holds (num / den)) :
    placeExponent num den = e ∨ m = 2 ^ 52 ∧ leastExponent < e ∧ placeExponent num den = e - 1 := by
  have hb : placeExponent num den ≤ e := placeExponent_le_of_holds hn hd hc h
  have hl : leastExponent ≤ placeExponent num den := leastExponent_le_placeExponent
  have hp : (0 : ℚ) < 2 ^ e := by positivity
  obtain ⟨_, hle, _, hf⟩ := hc
  rcases hle.eq_or_lt with rfl | hle
  · exact .inl (hb.antisymm hl)
  · rcases Nat.eq_or_lt_of_le (hf.resolve_right hle.ne') with rfl | hf
    · have hq : (2 : ℚ) ^ (51 + e) ≤ num / den := by
        rw [zpow_add₀ two_ne_zero]
        refine le_trans (mul_le_mul_of_nonneg_right ?_ hp.le) (le_of_holds_power hm h rfl hle)
        norm_num
      have := lt_placeExponent hn hd hq
      rcases (by omega : placeExponent num den = e ∨ placeExponent num den = e - 1) with he | he
      · exact .inl he
      · exact .inr ⟨rfl, hle, he⟩
    · have hf : (2 : ℚ) ^ (52 : Int) + 1 ≤ m := by exact_mod_cast hf
      have hq : (2 : ℚ) ^ (52 + e) ≤ num / den := by
        rw [zpow_add₀ two_ne_zero]
        exact (mul_le_mul_of_nonneg_right (by linarith) hp.le).trans (le_of_holds hm h)
      have := lt_placeExponent hn hd hq
      exact .inl (by omega)

-- Right below a power of two the mantissa is rounded up to one that has a digit too many.
theorem nearestEven_scaled_power (hd : 0 < den) (he : leastExponent < e)
    (h : (basin (2 ^ 52) e).Holds (num / den)) (hu : (num / den : ℚ) < 2 ^ (e - 1 + 53)) :
    nearestEven (scaled num den (e - 1)).1 (scaled num den (e - 1)).2 = 2 ^ 53 := by
  have hp : (0 : ℚ) < 2 ^ (e - 1) := by positivity
  have hs : (0 : ℚ) < (scaled num den (e - 1)).2 := by exact_mod_cast snd_scaled_pos hd
  have hr : (num / den : ℚ) = (scaled num den (e - 1)).1 / (scaled num den (e - 1)).2 * 2 ^ (e - 1) := by
    rw [ratio_scaled, div_mul_cancel₀ _ hp.ne']
  have h2 : (2 : ℚ) ^ e = 2 * 2 ^ (e - 1) := by
    rw [← zpow_one_add₀ two_ne_zero, add_sub_cancel]
  have hl := le_of_holds_power (by decide) h rfl he
  rw [hr, h2, ← mul_assoc, mul_le_mul_iff_left₀ hp, le_div_iff₀ hs] at hl
  rw [hr, add_comm, zpow_add₀ two_ne_zero, mul_lt_mul_iff_left₀ hp, div_lt_iff₀ hs] at hu
  generalize (scaled num den (e - 1)).1 = a at *
  generalize (scaled num den (e - 1)).2 = b at *
  have hu : a < 2 ^ 53 * b := by exact_mod_cast hu
  rw [nearestEven_eq hu, ← Nat.cast_le (α := ℚ)]
  push_cast at hl ⊢
  linarith

-- Whatever lies in the basin of a number is rounded to it.
theorem ofRatio_of_holds (hd : 0 < den) (hm : m ≠ 0) (hc : (finite negative m e).Canonical)
    (h : (basin m e).Holds (num / den)) : ofRatio negative num den = finite negative m e := by
  have hq : (0 : ℚ) < num / den := pos_of_holds hm h
  have hn : num ≠ 0 := by
    rintro rfl
    simp at hq
  have hf : ¬greatestExponent < e := not_lt.mpr hc.right.right.left
  rw [ofRatio, if_neg hn]
  rcases placeExponent_of_holds hn hd.ne' hm hc h with he | ⟨rfl, hl, he⟩
  · simp only [he]
    rw [nearestEven_scaled hm hd h, if_neg hc.left.ne, ofRatio.pack, if_neg hf]
  · have hu := (ratio_placeExponent hn hd.ne').left
    simp only [he] at hu ⊢
    rw [nearestEven_scaled_power hd hl h hu, if_pos rfl, sub_add_cancel, ofRatio.pack, if_neg hf]

end Binary64
end Gamebook
