import Mathlib
import Gamebook.Number.Numeral
import Gamebook.Proofs.Number.Nearest

namespace Gamebook
namespace Numeral

-- How a number is spelled in decimal notation: the digits before the point and after it, and the power
-- of ten, if there is one.
structure Spelling where
  whole  : List Char
  places : List Char
  power  : Option Int

namespace Spelling

def pointed (s : Spelling) : List Char :=
  if s.places = [] then [] else '.' :: s.places

def powered (s : Spelling) : List Char :=
  s.power.elim [] fun x => 'e' :: (if x < 0 then '-' else '+') :: padded 2 x.natAbs

def text (s : Spelling) : List Char :=
  s.whole ++ (s.pointed ++ s.powered)

-- What is spelled. How many zeros there are in front makes no difference.
def value (s : Spelling) : ℚ :=
  ofDigits (s.whole ++ s.places) * 10 ^ (s.power.getD 0 - s.places.length : Int)

-- Digits stand where there should be some, and no needless zero stands in front.
structure IsSound (s : Spelling) : Prop where
  whole   : ∀ c ∈ s.whole, c.isDigit
  places  : ∀ c ∈ s.places, c.isDigit
  leading : s.whole = ['0'] ∨ s.whole ≠ [] ∧ s.whole.head? ≠ some '0'

-- It is no whole number that is spelled, but one with a point or a power.
def IsFractional (s : Spelling) : Prop :=
  s.places ≠ [] ∨ s.power ≠ none

end Spelling

variable {cs ds rest : List Char} {p : Int} {q : ℚ} {negative : Bool} {m : Nat} {e : Int} {s : Spelling}

-- Digits are taken up to the first character that is none.
theorem splitDigits_append (hd : ∀ c ∈ ds, c.isDigit) (hr : ∀ c ∈ rest.head?, ¬c.isDigit) :
    splitDigits (ds ++ rest) = (ds, rest) := by
  rw [splitDigits, List.takeWhile_append_of_pos hd, List.dropWhile_append_of_pos hd]
  cases rest with
  | nil         => simp
  | cons c rest =>
    have hc : ¬c.isDigit := hr c rfl
    rw [List.takeWhile_cons_of_neg hc, List.dropWhile_cons_of_neg hc, List.append_nil]

namespace Spelling

theorem IsSound.whole_ne_nil (h : s.IsSound) : s.whole ≠ [] := by
  rcases h.leading with h | ⟨h, _⟩
  · simp [h]
  · exact h

theorem head?_pointed {c : Char} (h : c ∈ (s.pointed ++ s.powered ++ rest).head?) :
    c = '.' ∨ c = 'e' ∨ c ∈ rest.head? := by
  rw [pointed, powered] at h
  by_cases hp : s.places = []
  case pos =>
    rw [if_pos hp] at h
    cases hx : s.power with
    | none   =>
      rw [hx] at h
      exact .inr (.inr h)
    | some x =>
      rw [hx] at h
      exact .inr (.inl (Option.some.inj h).symm)
  case neg =>
    rw [if_neg hp] at h
    exact .inl (Option.some.inj h).symm

theorem head?_powered {c : Char} (h : c ∈ (s.powered ++ rest).head?) : c = 'e' ∨ c ∈ rest.head? := by
  rw [powered] at h
  cases hx : s.power with
  | none   =>
    rw [hx] at h
    exact .inr h
  | some x =>
    rw [hx] at h
    exact .inl (Option.some.inj h).symm

theorem exponent?_powered : exponent? s.powered = some (s.power.getD 0) := by
  rw [powered]
  cases s.power with
  | none   => rfl
  | some x =>
    have hd : (padded 2 x.natAbs).all (·.isDigit) := List.all_eq_true.mpr fun c => isDigit_of_mem_padded
    have hn : (padded 2 x.natAbs).isEmpty = false := by simp [padded]
    have hs : splitSign ((if x < 0 then '-' else '+') :: padded 2 x.natAbs) = (decide (x < 0), padded 2 x.natAbs) := by
      split <;> simp [splitSign, *]
    simp only [Option.elim_some, exponent?, decide_true, Bool.true_or, if_true, Option.getD_some, hs, hd, hn,
      ofDigits_padded, Bool.not_true, Bool.or_self, Bool.false_eq_true, if_false, decide_eq_true_eq]
    congr 1
    split <;> omega

theorem splitDigits_text (h : s.IsSound) : splitDigits s.text = (s.whole, s.pointed ++ s.powered) := by
  apply splitDigits_append h.whole
  intro c hc
  rw [← List.append_nil (s.pointed ++ s.powered)] at hc
  rcases head?_pointed hc with rfl | rfl | hc
  · decide
  · decide
  · cases hc

theorem splitDigits_places (h : s.IsSound) : splitDigits (s.places ++ s.powered) = (s.places, s.powered) := by
  apply splitDigits_append h.places
  intro c hc
  rw [← List.append_nil s.powered] at hc
  rcases head?_powered hc with rfl | hc
  · decide
  · cases hc

theorem unsigned?_text (h : s.IsSound) : unsigned? negative s.text =
    some (ofPlaces negative (s.whole ++ s.places) (s.whole.length + s.power.getD 0)) := by
  have hw : s.whole.isEmpty = false := by simpa using h.whole_ne_nil
  simp only [unsigned?, splitDigits_text h, hw, Bool.false_and, Bool.false_eq_true, if_false]
  rw [pointed]
  by_cases hp : s.places = []
  case pos =>
    rw [if_pos hp, hp, List.nil_append]
    split
    case h_1 he =>
      have hc : '.' ∈ (s.powered ++ []).head? := by simp [he]
      rcases head?_powered hc with hc | hc <;> cases hc
    case h_2 => rw [exponent?_powered, Option.map_some]
  case neg =>
    rw [if_neg hp]
    simp only [List.cons_append, splitDigits_places h, exponent?_powered, Option.map_some]

end Spelling

theorem exists_zeros (ds : List Char) : ∃ w sig, ds = .replicate w '0' ++ sig ∧ ds.dropWhile (· = '0') = sig ∧
    ∀ c ∈ sig.head?, c ≠ '0' := by
  refine ⟨(ds.takeWhile (· = '0')).length, _, ?_, rfl, fun c hc => ?_⟩
  · rw [← List.eq_replicate_length.mpr fun c hc => by simpa using List.mem_takeWhile_imp hc,
      List.takeWhile_append_dropWhile]
  · have hn := List.head?_dropWhile_not (· = '0') ds
    rw [hc] at hn
    simpa using hn

-- Digits are read as the number nearest to what they stand for, as long as this is neither too far from
-- one nor too close to zero.
theorem exists_ofPlaces (hd : ∀ c ∈ ds, c.isDigit) (hq : (ofDigits ds * 10 ^ (p - ds.length : Int) : ℚ) = q)
    (hl : (10 : ℚ) ^ (-341 : Int) ≤ q) (hu : q < 10 ^ (320 : Int)) :
    ∃ num den : Nat, 0 < den ∧ (num / den : ℚ) = q ∧ ofPlaces negative ds p = .ofRatio negative num den := by
  obtain ⟨w, sig, hds, hs, hz⟩ := exists_zeros ds
  have ho : ofDigits ds = ofDigits sig := hds ▸ ofDigits_zeros
  have hlen : ds.length = w + sig.length := by simp [hds]
  cases sig with
  | nil =>
    have h0 : q = 0 := by
      rw [← hq, ho]
      simp [ofDigits]
    rw [h0] at hl
    exact absurd hl (not_le.mpr (by positivity))
  | cons c cs =>
    obtain ⟨k, hk⟩ : ∃ k : Int, k = p - ds.length := ⟨_, rfl⟩
    rw [ho, ← hk] at hq
    have hds' : ∀ d ∈ c :: cs, d.isDigit := fun d h => hd d (hds ▸ List.mem_append_right _ h)
    have h₁ : (10 : ℚ) ^ (cs.length : Int) ≤ ofDigits (c :: cs) := by
      exact_mod_cast pow_le_ofDigits (hds' c List.mem_cons_self) (hz c rfl)
    have h₂ : (ofDigits (c :: cs) : ℚ) < 10 ^ (cs.length + 1 : Int) := by
      exact_mod_cast ofDigits_lt hds'
    have hp : (0 : ℚ) < 10 ^ k := by positivity
    have hu : (10 : ℚ) ^ (cs.length + k : Int) < 10 ^ (320 : Int) := by
      rw [zpow_add₀ (by norm_num)]
      exact ((mul_le_mul_of_nonneg_right h₁ hp.le).trans_eq hq).trans_lt hu
    have hl : (10 : ℚ) ^ (-341 : Int) < 10 ^ (cs.length + 1 + k : Int) := by
      rw [zpow_add₀ (by norm_num) (_ + 1)]
      exact hl.trans_lt (hq.symm.trans_lt (mul_lt_mul_of_pos_right h₂ hp))
    rw [zpow_lt_zpow_iff_right₀ (by norm_num)] at hu hl
    refine ⟨ofDigits (c :: cs) * 10 ^ k.toNat, 10 ^ (-k).toNat, by positivity, ?_, ?_⟩
    · have ht := Binary64.natCast_pow_toNat (a := 10) (by decide) k
      push_cast at ht ⊢
      rw [ht, ← mul_assoc, mul_div_cancel_right₀ _ (by positivity), hq]
    · rw [ofPlaces, hs, hlen]
      simp only [List.length_cons, List.isEmpty_cons, Bool.false_eq_true, if_false]
      rw [List.length_cons] at hlen
      rw [if_neg (by omega), if_neg (by omega)]
      have he : p - ((w + (cs.length + 1) - (cs.length + 1) : Nat) : Int) - ((cs.length + 1 : Nat) : Int) = k := by
        omega
      rw [he]

theorem two_zpow_lt : (2 : ℚ) ^ (1024 : Int) < 10 ^ (320 : Int) := calc
  (2 : ℚ) ^ (1024 : Int) = (2 ^ 16) ^ 64       := by rw [← pow_mul, ← zpow_natCast]; norm_num only
  _                      < (10 ^ 5) ^ 64       := pow_lt_pow_left₀ (by norm_num) (by norm_num) (by decide)
  _                      = 10 ^ (320 : Int)    := (pow_mul 10 5 64).symm

theorem ten_zpow_le : (10 : ℚ) ^ (-341 : Int) ≤ 2 ^ (-1075 : Int) := by
  rw [zpow_neg, zpow_neg]
  apply inv_anti₀ (by positivity)
  calc (2 : ℚ) ^ (1075 : Int)
    _ ≤ 2 ^ (1116 : Int)  := zpow_le_zpow_right₀ one_le_two (by decide)
    _ = (2 ^ 36) ^ 31     := by rw [← pow_mul, ← zpow_natCast]; norm_num only
    _ ≤ (10 ^ 11) ^ 31    := pow_le_pow_left₀ (by norm_num) (by norm_num) 31
    _ = 10 ^ (341 : Int)  := (pow_mul 10 11 31).symm

theorem bounds_of_holds (hm : m ≠ 0) (hc : (Binary64.finite negative m e).Canonical)
    (h : (Binary64.basin m e).Holds q) : (10 : ℚ) ^ (-341 : Int) ≤ q ∧ q < 10 ^ (320 : Int) := by
  obtain ⟨hu, hl, hg, _⟩ := hc
  have hu : (m : ℚ) + 1 ≤ 2 ^ (53 : Int) := by exact_mod_cast hu
  have hm' : (1 : ℚ) ≤ m := by exact_mod_cast Nat.one_le_iff_ne_zero.mpr hm
  constructor
  · calc (10 : ℚ) ^ (-341 : Int)
      _ ≤ 2 ^ (-1 + -1074 : Int)     := ten_zpow_le
      _ ≤ 2 ^ (-1 + e)               := zpow_le_zpow_right₀ one_le_two (Int.add_le_add_left hl _)
      _ = 2 ^ (-1 : Int) * 2 ^ e     := zpow_add₀ two_ne_zero ..
      _ ≤ (m - 1 / 2) * 2 ^ e        := mul_le_mul_of_nonneg_right (by norm_num; linarith) (by positivity)
      _ ≤ q                          := Binary64.le_of_holds hm h
  · calc q
      _ ≤ (m + 1 / 2) * 2 ^ e        := Binary64.le_half_of_holds h
      _ ≤ 2 ^ (53 : Int) * 2 ^ e     := mul_le_mul_of_nonneg_right (by linarith) (by positivity)
      _ = 2 ^ (53 + e)               := (zpow_add₀ two_ne_zero ..).symm
      _ ≤ 2 ^ (53 + 971 : Int)       := zpow_le_zpow_right₀ one_le_two (Int.add_le_add_left hg _)
      _ < 10 ^ (320 : Int)           := two_zpow_lt

theorem ofPlaces_of_holds (hm : m ≠ 0) (hc : (Binary64.finite negative m e).Canonical) (hd : ∀ c ∈ ds, c.isDigit)
    (h : (Binary64.basin m e).Holds (ofDigits ds * 10 ^ (p - ds.length : Int))) :
    ofPlaces negative ds p = .finite negative m e := by
  obtain ⟨hl, hu⟩ := bounds_of_holds hm hc h
  obtain ⟨num, den, hden, hr, ho⟩ := exists_ofPlaces hd rfl hl hu
  rw [ho, Binary64.ofRatio_of_holds hden hm hc (hr ▸ h)]

theorem Spelling.unsigned?_of_holds (hs : s.IsSound) (hm : m ≠ 0) (hc : (Binary64.finite negative m e).Canonical)
    (h : (Binary64.basin m e).Holds s.value) : unsigned? negative s.text = some (.finite negative m e) := by
  rw [unsigned?_text hs]
  apply congrArg some
  apply ofPlaces_of_holds hm hc
  · intro c hc
    exact (List.mem_append.mp hc).elim (hs.whole c) (hs.places c)
  · rw [List.length_append]
    push_cast
    rw [add_sub_add_left_eq_sub]
    exact h

end Numeral

-- A decimal is spelled with a point or a power.
structure Numeral.Spelling.Spells (s : Spelling) (d : Decimal) : Prop where
  sound      : s.IsSound
  fractional : s.IsFractional
  value      : s.value = d.value

namespace Binary64

open Numeral

section

variable {s : Spelling} {d : Decimal} {k : Int} {z : Nat}

theorem value_of_digits (hv : ofDigits (s.whole ++ s.places) = d.digits * 10 ^ z)
    (hk : s.power.getD 0 - s.places.length + z = d.exponent) : s.value = d.value := by
  rw [Spelling.value, Decimal.value, hv, ← hk, zpow_add₀ (by norm_num) _ (z : Int), zpow_natCast]
  push_cast
  ring

-- Zero and a point come first.
theorem spells_small (he : d.exponent = -(z + (Nat.toDigits 10 d.digits).length)) :
    (Spelling.mk ['0'] (.replicate z '0' ++ Nat.toDigits 10 d.digits) none).Spells d where
  sound      := by
    refine ⟨List.forall_mem_singleton.mpr rfl, fun c hc => ?_, .inl rfl⟩
    rcases List.mem_append.mp hc with hc | hc
    · exact List.eq_of_mem_replicate hc ▸ rfl
    · exact isDigit_of_mem hc
  fractional := .inl (by simp)
  value      := by
    apply value_of_digits (z := 0)
    · rw [pow_zero, mul_one]
      exact (ofDigits_zeros (w := 1)).trans (ofDigits_zeros.trans (ofDigits_toDigits _))
    · simp
      omega

variable (hd : d.digits ≠ 0)
include hd

theorem head?_append_toDigits {cs : List Char} : (Nat.toDigits 10 d.digits ++ cs).head? ≠ some '0' :=
  (List.head?_append_of_ne_nil _ Nat.toDigits_ne_nil).symm ▸ head?_toDigits hd

-- The digits reach as far as to the point or beyond it.
theorem spells_whole (he : d.exponent = z) :
    (Spelling.mk (Nat.toDigits 10 d.digits ++ .replicate z '0') ['0'] none).Spells d where
  sound      := by
    refine ⟨fun c hc => ?_, List.forall_mem_singleton.mpr rfl, .inr ⟨by simp, head?_append_toDigits hd⟩⟩
    rcases List.mem_append.mp hc with hc | hc
    · exact isDigit_of_mem hc
    · exact List.eq_of_mem_replicate hc ▸ rfl
  fractional := .inl (List.cons_ne_nil _ _)
  value      := by
    apply value_of_digits (z := z + 1)
    · rw [List.append_assoc, ← List.replicate_succ', ofDigits, Nat.ofDigitChars_append,
        Nat.ofDigitChars_replicate_zero, Nat.mul_comm, ← ofDigits, ofDigits_toDigits]
    · simp
      omega

-- The digits stand on both sides of the point.
theorem spells_split (i : Nat) (power : Option Int)
    (hf : (Nat.toDigits 10 d.digits).drop (i + 1) ≠ [] ∨ power ≠ none)
    (he : power.getD 0 - ((Nat.toDigits 10 d.digits).length - (i + 1) : Nat) = d.exponent) :
    (Spelling.mk ((Nat.toDigits 10 d.digits).take (i + 1)) ((Nat.toDigits 10 d.digits).drop (i + 1))
      power).Spells d where
  sound      := by
    refine ⟨fun c hc => isDigit_of_mem (List.mem_of_mem_take hc), fun c hc => isDigit_of_mem (List.mem_of_mem_drop hc),
      .inr ⟨by simp, ?_⟩⟩
    rw [List.head?_take, if_neg (Nat.succ_ne_zero i)]
    exact head?_toDigits hd
  fractional := hf
  value      := by
    apply value_of_digits (z := 0)
    · rw [List.take_append_drop, ofDigits_toDigits, pow_zero, mul_one]
    · rw [List.length_drop]
      simpa using he

-- Whichever layout is chosen, a decimal is spelled.
theorem exists_spelling (l : Layout) : ∃ s : Spelling, l.write d = s.text ∧ s.Spells d := by
  have hlen : 0 < (Nat.toDigits 10 d.digits).length := Nat.length_toDigits_pos
  obtain ⟨x, hx⟩ : ∃ x : Int, x = d.exponent + (Nat.toDigits 10 d.digits).length - 1 := ⟨_, rfl⟩
  simp only [Layout.write, ← hx]
  split
  case isTrue =>
    split
    case isTrue h =>
      refine ⟨_, ?_, spells_small (z := (-x - 1).toNat) (by omega)⟩
      simp [Spelling.text, Spelling.pointed, Spelling.powered]
    case isFalse h =>
      split
      case isTrue =>
        refine ⟨_, ?_, spells_whole (z := (x + 1 - (Nat.toDigits 10 d.digits).length).toNat) hd (by omega)⟩
        simp [Spelling.text, Spelling.pointed, Spelling.powered]
      case isFalse =>
        have hi : (x + 1).toNat = x.toNat + 1 := by omega
        have hn : (Nat.toDigits 10 d.digits).drop (x.toNat + 1) ≠ [] := by
          rw [ne_eq, List.drop_eq_nil_iff]
          omega
        refine ⟨_, ?_, spells_split hd x.toNat none (.inl hn) (by simp; omega)⟩
        simp only [Spelling.text, Spelling.pointed, Spelling.powered, if_neg hn, Option.elim_none, List.append_nil, hi]
  case isFalse =>
    refine ⟨_, ?_, spells_split hd 0 (some x) (.inr (by simp)) (by simp; omega)⟩
    have hp : (Nat.toDigits 10 d.digits).drop 1 = [] ↔ (Nat.toDigits 10 d.digits).length = 1 := by
      rw [List.drop_eq_nil_iff]
      omega
    simp only [Spelling.text, Spelling.pointed, Spelling.powered, Option.elim_some, Nat.zero_add, hp, padded,
      List.append_assoc, List.cons_append]

end

variable {n : Bool} {m : Nat} {e : Int}

theorem exists_spelling_zero {n : Bool} : ∃ s : Spelling, ['0', '.', '0'] = s.text ∧ s.IsSound ∧ s.IsFractional ∧
    unsigned? n s.text = some (zero n) := by
  refine ⟨⟨['0'], ['0'], none⟩, rfl, ⟨by simp, by simp, .inl rfl⟩, .inl (by simp), ?_⟩
  cases n <;> rfl

-- A number is read back from its text.
theorem exists_spelling_text (hc : (finite n m e).Canonical) : ∃ s : Spelling,
    (finite n m e).text.toList = (if n then ['-'] else []) ++ s.text ∧ s.IsSound ∧ s.IsFractional ∧
      unsigned? n s.text = some (finite n m e) := by
  by_cases hm : m = 0
  case pos =>
    obtain ⟨s, ht, hs, hf, hu⟩ := exists_spelling_zero (n := n)
    have he : e = leastExponent := hc.right.right.right.resolve_left (by simp [hm])
    refine ⟨s, ?_, hs, hf, hu.trans (by rw [zero, hm, he])⟩
    rw [← ht, text, if_pos hm]
    cases n <;> rfl
  case neg =>
    obtain ⟨s, ht, hs⟩ := exists_spelling (digits_shortest_ne_zero (e := e) hm hc.left) layout
    have hv : (basin m e).Holds s.value := hs.value ▸ holds_shortest hm hc.left
    refine ⟨s, ?_, hs.sound, hs.fractional, Spelling.unsigned?_of_holds hs.sound hm hc hv⟩
    rw [← ht, text, if_neg hm]
    cases n <;> simp

end Binary64
end Gamebook
