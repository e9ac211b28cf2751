import Mathlib
import Gamebook.Number.Numeral
import Gamebook.Proofs.Number.Nearest

namespace Gamebook

variable {num den m : Nat} {e p : Int} {negative : Bool} {cs ds : List Char} {f : Binary64}

namespace Binary64

theorem canonical_zero : (zero negative).Canonical :=
  ⟨by decide, le_rfl, by decide, .inr rfl⟩

theorem nearestEven_le (h : num < m * den) : nearestEven num den ≤ m := by
  have hq : num / den < m := Nat.div_lt_of_lt_mul (by rwa [Nat.mul_comm])
  rcases Basin.nearestEven_eq_or num den with he | he <;> omega

theorem le_nearestEven (hd : 0 < den) (h : m * den ≤ num) : m ≤ nearestEven num den := by
  have hq : m ≤ num / den := (Nat.le_div_iff_mul_le hd).mpr h
  rcases Basin.nearestEven_eq_or num den with he | he <;> omega

-- The mantissa has one digit too many at most, and then it is a power of two.
theorem nearestEven_placeExponent (hn : num ≠ 0) (hd : den ≠ 0) :
    nearestEven (scaled num den (placeExponent num den)).1 (scaled num den (placeExponent num den)).2 ≤ 2 ^ 53 ∧
      (placeExponent num den = leastExponent ∨
        2 ^ 52 ≤ nearestEven (scaled num den (placeExponent num den)).1 (scaled num den (placeExponent num den)).2) := by
  obtain ⟨hu, hl⟩ := ratio_placeExponent hn hd
  have hp : (0 : ℚ) < 2 ^ placeExponent num den := by positivity
  have hs : 0 < (scaled num den (placeExponent num den)).2 := snd_scaled_pos (Nat.pos_of_ne_zero hd)
  have hs' : (0 : ℚ) < (scaled num den (placeExponent num den)).2 := by exact_mod_cast hs
  have hr := ratio_scaled num den (placeExponent num den)
  constructor
  · apply nearestEven_le
    rw [add_comm, zpow_add₀ two_ne_zero, ← div_lt_iff₀ hp, ← hr, div_lt_iff₀ hs'] at hu
    exact_mod_cast hu
  · refine hl.imp_right fun hl => le_nearestEven hs ?_
    rw [add_comm, zpow_add₀ two_ne_zero, ← le_div_iff₀ hp, ← hr, le_div_iff₀ hs'] at hl
    exact_mod_cast hl

theorem canonical_pack (hm : m < 2 ^ 53) (he : leastExponent ≤ e) (hl : e = leastExponent ∨ 2 ^ 52 ≤ m) :
    (ofRatio.pack negative m e).Canonical := by
  rw [ofRatio.pack]
  split
  case isTrue    => trivial
  case isFalse h => exact ⟨hm, he, not_lt.mp h, hl.symm⟩

-- Whatever is rounded has the one form that numbers have.
theorem canonical_ofRatio (hd : den ≠ 0) : (ofRatio negative num den).Canonical := by
  rw [ofRatio]
  split
  case isTrue     => exact canonical_zero
  case isFalse hn =>
    obtain ⟨hu, hl⟩ := nearestEven_placeExponent hn hd
    have he : leastExponent ≤ placeExponent num den := leastExponent_le_placeExponent
    dsimp only
    split
    case isTrue     => exact canonical_pack (by decide) (by omega) (.inr le_rfl)
    case isFalse hm => exact canonical_pack (lt_of_le_of_ne hu hm) he hl

end Binary64

namespace Numeral

theorem canonical_ofPlaces : (ofPlaces negative ds p).Canonical := by
  rw [ofPlaces]
  dsimp only
  split
  case isTrue  => exact Binary64.canonical_zero
  case isFalse =>
    split
    case isTrue  => trivial
    case isFalse =>
      split
      case isTrue  => exact Binary64.canonical_zero
      case isFalse => exact Binary64.canonical_ofRatio (Nat.pow_pos (by decide)).ne'

theorem canonical_unsigned? (h : unsigned? negative cs = some f) : f.Canonical := by
  simp only [unsigned?, Option.ite_none_left_eq_some, Option.map_eq_some_iff] at h
  obtain ⟨_, e, _, rfl⟩ := h
  exact canonical_ofPlaces

end Numeral
end Gamebook
