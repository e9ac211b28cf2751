import Mathlib
import Gamebook.Text.Lower

namespace Gamebook
namespace Text

-- The same character, or the same letter of ASCII in the other case.
def SameLetter (c d : Char) : Prop :=
  c = d ∨ c.isUpper ∧ d.toNat = c.toNat + 32 ∨ d.isUpper ∧ c.toNat = d.toNat + 32

def SameButCase (s t : String) : Prop :=
  List.Forall₂ SameLetter s.toList t.toList

-- What a text may become in lower case. Capital sigma has another form at the end of a word.
inductive Lowers : List Char → List Char → Prop
  | nil : Lowers [] []
  | cons {cs ds : List Char} (c : Char) (h : Lowers cs ds) : Lowers (c :: cs) (lowerChar c ++ ds)
  | final {cs ds : List Char} (h : Lowers cs ds) : Lowers ('Σ' :: cs) ('ς' :: ds)

variable {c d : Char} {cs ds ts : List Char} {s t : String}

theorem isUpper_iff : c.isUpper ↔ 65 ≤ c.toNat ∧ c.toNat ≤ 90 := by
  simp [Char.isUpper, UInt32.le_iff_toNat_le]

theorem toNat_toLower : c.toLower.toNat = if c.isUpper then c.toNat + 32 else c.toNat := by
  rw [Char.toLower]
  split
  case isTrue h =>
    have hc : c.isUpper := decide_eq_true h
    have hn := isUpper_iff.mp hc
    have ha : (c.val + ('a'.val - 'A'.val)).toNat = c.toNat + 32 := by
      rw [UInt32.toNat_add, Char.toNat_val, show ('a'.val - 'A'.val).toNat = 32 by decide]
      omega
    rw [if_pos hc, ← ha]
    rfl
  case isFalse h =>
    have hc : ¬c.isUpper := fun hc => h (of_decide_eq_true hc)
    rw [if_neg hc]

theorem toLower_eq_iff : c.toLower = d.toLower ↔ SameLetter c d := by
  rw [← Char.toNat_inj, toNat_toLower, toNat_toLower, SameLetter, ← Char.toNat_inj]
  simp only [isUpper_iff]
  split_ifs <;> omega

theorem map_toLower_eq_iff : cs.map Char.toLower = ts.map Char.toLower ↔ List.Forall₂ SameLetter cs ts := by
  rw [← List.forall₂_eq_eq_eq, List.forall₂_map_left_iff, List.forall₂_map_right_iff]
  simp only [toLower_eq_iff]

theorem ascii_of_toLower (h : c.toLower.toNat < 128) : c.toNat < 128 := by
  rw [toNat_toLower] at h
  split at h <;> omega

theorem lowerChar_of_ascii (h : c.toNat < 128) : lowerChar c = [c.toLower] :=
  if_pos h

-- The ranges begin and end beyond ASCII when they are shifted, and no surrogate is reached. The sign of
-- the unit kelvin is apart.
theorem shifted_caseRanges : ∀ r ∈ caseRanges, r.first = 0x212a ∧ r.last = 0x212a ∨ 128 ≤ r.first + r.shift ∧
    (r.last + r.shift < 0xd800 ∨ 0xdfff < r.first + r.shift ∧ r.last + r.shift < 0x110000) := by
  decide +kernel

-- Only the sign of the unit kelvin becomes a letter of ASCII, although it is none.
theorem exists_mem_lowerChar (h : 128 ≤ c.toNat) : c = '\u212a' ∨ ∃ d ∈ lowerChar c, 128 ≤ d.toNat := by
  rw [lowerChar, if_neg (Nat.not_lt.mpr h)]
  split
  case isTrue  => exact .inr ⟨'\u0307', by simp, by decide⟩
  case isFalse =>
    split
    case h_2      => exact .inr ⟨c, List.mem_singleton_self c, h⟩
    case h_1 r hr =>
      have hc := List.find?_some hr
      obtain ⟨hf, hl, _⟩ := of_decide_eq_true hc
      rcases shifted_caseRanges r (List.mem_of_find?_eq_some hr) with hk | ⟨hn, hv⟩
      · left
        rw [← Char.toNat_inj, show '\u212a'.toNat = 0x212a by decide]
        omega
      · right
        refine ⟨_, List.mem_singleton_self _, ?_⟩
        have hv : (c.toNat + r.shift).toNat.isValidChar := by
          rw [Nat.isValidChar]
          omega
        rw [Char.toNat_ofNat, if_pos hv]
        omega

theorem lowers_lower (s : String) : Lowers s.toList (lower s).toList := by
  rw [lower, String.toList_ofList]
  induction s.toList with
  | nil          => exact .nil
  | cons c cs hi => exact .cons c hi

theorem eq_of_lowers (h : Lowers cs ds) (hc : ∀ c ∈ cs, c.toNat < 128) : ds = cs.map Char.toLower := by
  induction h with
  | nil         => rfl
  | cons c _ hi =>
    have ⟨hc, hcs⟩ := List.forall_mem_cons.mp hc
    rw [lowerChar_of_ascii hc, hi hcs]
    rfl
  | final       => exact absurd (hc _ List.mem_cons_self) (by decide)

theorem ascii_of_lowers (h : Lowers cs ds) (hd : ∀ d ∈ ds, d.toNat < 128 ∧ d ≠ 'k') : ∀ c ∈ cs, c.toNat < 128 := by
  induction h with
  | nil         => exact List.forall_mem_nil _
  | cons c _ hi =>
    have ⟨hl, hd⟩ := List.forall_mem_append.mp hd
    refine List.forall_mem_cons.mpr ⟨Nat.lt_of_not_le fun hc => ?_, hi hd⟩
    rcases exists_mem_lowerChar hc with rfl | ⟨d, hm, hn⟩
    · exact (hl 'k' (by decide)).right rfl
    · exact absurd (hl d hm).left (Nat.not_lt.mpr hn)
  | final       => exact absurd (hd _ List.mem_cons_self).left (by decide)

-- Where nothing has a k in it, the lower case forms of all characters of Unicode are as good as those of
-- the letters of ASCII alone.
theorem lowers_iff (h : Lowers cs ds) (ht : ∀ c ∈ ts, c.toNat < 128 ∧ c.toLower ≠ 'k') :
    ds = ts.map Char.toLower ↔ List.Forall₂ SameLetter cs ts := by
  have hl {d : Char} (hd : d ∈ ts.map Char.toLower) : d.toNat < 128 ∧ d ≠ 'k' := by
    obtain ⟨c, hc, rfl⟩ := List.mem_map.mp hd
    refine ⟨?_, (ht c hc).right⟩
    have := (ht c hc).left
    rw [toNat_toLower]
    split
    case isTrue hu => have := isUpper_iff.mp hu; omega
    case isFalse   => exact this
  rw [← map_toLower_eq_iff]
  constructor
  · rintro rfl
    exact (eq_of_lowers h (ascii_of_lowers h fun _ => hl)).symm
  · intro he
    have hc : ∀ c ∈ cs, c.toNat < 128 := fun c hc =>
      ascii_of_toLower (hl (he ▸ List.mem_map_of_mem hc)).left
    exact (eq_of_lowers h hc).trans he

end Text
end Gamebook
