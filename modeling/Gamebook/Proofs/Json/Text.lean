import Mathlib
import Gamebook.Json.Reader
import Gamebook.Json.Writer
import Gamebook.Proofs.Chain
import Gamebook.Proofs.Text.Hex

namespace Gamebook
namespace Json

theorem hexDigits_four (n : Nat) :
    Text.hexDigits 4 n = [Text.hexDigit (n / 16 / 16 / 16 % 16), Text.hexDigit (n / 16 / 16 % 16),
      Text.hexDigit (n / 16 % 16), Text.hexDigit (n % 16)] :=
  rfl

theorem unit?_hexDigits {n : Nat} (h : n < 0x10000) {cs : List Char} (hc : cs ≠ []) :
    unit? (Text.hexDigits 4 n ++ cs) = some n := by
  have ⟨c, cs, hc⟩ := List.exists_cons_of_ne_nil hc
  have hd (m : Nat) : Text.hexValue? (Text.hexDigit (m % 16)) = some (m % 16) :=
    Text.hexValue?_hexDigit (Nat.mod_lt _ (by decide))
  rw [hexDigits_four, hc]
  simp only [List.cons_append, List.nil_append, unit?, hd, Option.bind_eq_bind, Option.bind_some,
    Option.pure_def, Option.some.injEq]
  omega

theorem unitChar_of_char {c : Char} : unitChar c.toNat = c := by
  have h := c.valid
  have hs : (isHighSurrogate c.toNat || isLowSurrogate c.toNat) = false := by
    simp only [UInt32.isValidChar, Nat.isValidChar] at h
    simp only [isHighSurrogate, isLowSurrogate, Char.toNat]
    grind
  rw [unitChar, hs]
  exact Char.ofNat_toNat c

-- What a reader takes from the start of a text, and what it leaves.
def Reads {cs : List Char} (r : Read α cs) (a : α) (rest : List Char) : Prop :=
  ∃ h, r = .ok (a, ⟨rest, h⟩)

variable {start cs s rest : List Char}

theorem reads_quotation : Reads (readString start (Text.quotation :: rest)) [] rest := by
  rw [readString.eq_def]
  exact ⟨by simp, if_pos rfl⟩

theorem Reads.ne_nil (h : Reads (readString start cs) s rest) : cs ≠ [] := by
  have ⟨hl, _⟩ := h
  intro hc
  rw [hc] at hl
  contradiction

theorem Reads.plain {c : Char} (hq : c ≠ Text.quotation) (hb : c ≠ Text.backslash)
    (hc : 0x20 ≤ c.toNat) (h : Reads (readString start cs) s rest) :
    Reads (readString start (c :: cs)) (c :: s) rest := by
  have ⟨hl, h⟩ := h
  rw [readString.eq_def]
  simp only [if_neg hq, if_neg hb, if_neg (Nat.not_lt.mpr hc), h]
  exact ⟨Nat.lt_succ_of_lt hl, rfl⟩

theorem Reads.simple {c e : Char} (he : simpleEscape? e = some c) (hu : e ≠ 'u')
    (h : Reads (readString start cs) s rest) :
    Reads (readString start (Text.backslash :: e :: cs)) (c :: s) rest := by
  have ⟨hl, h⟩ := h
  rw [readString.eq_def]
  simp only [if_neg (show Text.backslash ≠ Text.quotation by decide), if_pos, if_neg hu, he, h]
  exact ⟨by simp only [List.length_cons]; omega, rfl⟩

theorem Reads.unicode {c : Char} {n : Nat} (he : unicodeEscape? cs = .ok (c, n))
    (h : Reads (readString start (cs.drop n)) s rest) :
    Reads (readString start (Text.backslash :: 'u' :: cs)) (c :: s) rest := by
  have ⟨hl, h⟩ := h
  rw [readString.eq_def]
  simp only [if_neg (show Text.backslash ≠ Text.quotation by decide), if_pos, he, Chain.ok_bind, h]
  exact ⟨by simp only [List.length_cons]; simp only [List.length_drop] at hl; omega, rfl⟩

theorem unicodeEscape?_unit {n : Nat} (h : n < 0x10000) (hs : isHighSurrogate n = false)
    (hc : cs ≠ []) : unicodeEscape? (Text.hexDigits 4 n ++ cs) = .ok (unitChar n, 4) := by
  rw [unicodeEscape?, unit?_hexDigits h hc]
  simp only [hs]
  split <;> rfl

theorem pairChar_surrogates (n : Nat) :
    pairChar (0xd800 + n / 0x400) (0xdc00 + n % 0x400) = Char.ofNat (0x10000 + n) := by
  have h : 0x10000 + (0xd800 + n / 0x400 - 0xd800) * 0x400 + (0xdc00 + n % 0x400 - 0xdc00)
      = 0x10000 + n := by omega
  rw [pairChar, h]

theorem unicodeEscape?_pair {n : Nat} (h : n < 0x100000) (hc : cs ≠ []) :
    unicodeEscape? (Text.hexDigits 4 (0xd800 + n / 0x400) ++
      (unicodeEscape.unit (0xdc00 + n % 0x400) ++ cs)) = .ok (Char.ofNat (0x10000 + n), 10) := by
  have hh : isHighSurrogate (0xd800 + n / 0x400) := by
    simp only [isHighSurrogate, Bool.and_eq_true, decide_eq_true_eq]
    omega
  have hl : isLowSurrogate (0xdc00 + n % 0x400) := by
    simp only [isLowSurrogate, Bool.and_eq_true, decide_eq_true_eq]
    omega
  have hu := unit?_hexDigits (show 0xd800 + n / 0x400 < 0x10000 by omega)
    (show unicodeEscape.unit (0xdc00 + n % 0x400) ++ cs ≠ [] from List.cons_ne_nil _ _)
  have hu' := unit?_hexDigits (show 0xdc00 + n % 0x400 < 0x10000 by omega) hc
  have hd : (Text.hexDigits 4 (0xd800 + n / 0x400) ++ (unicodeEscape.unit (0xdc00 + n % 0x400) ++ cs)).drop 4
      = '\\' :: 'u' :: (Text.hexDigits 4 (0xdc00 + n % 0x400) ++ cs) :=
    rfl
  have hn : 5 ≤ (Text.hexDigits 4 (0xdc00 + n % 0x400) ++ cs).length := by
    have := List.length_pos_iff.mpr hc
    rw [List.length_append, Text.length_hexDigits]
    omega
  rw [unicodeEscape?]
  simp only [hu, hd, hu', hh, hl, hn, decide_true, Bool.and_self, if_true, pairChar_surrogates]

theorem Reads.unicodeEscape {c : Char} (h : Reads (readString start cs) s rest) :
    Reads (readString start (unicodeEscape c ++ cs)) (c :: s) rest := by
  have hv := c.valid
  simp only [UInt32.isValidChar, Nat.isValidChar] at hv
  by_cases hc : c.toNat < 0x10000
  case pos =>
    have hs : isHighSurrogate c.toNat = false := by
      simp only [isHighSurrogate, Char.toNat, Bool.and_eq_false_iff, decide_eq_false_iff_not]
      omega
    have he := unicodeEscape?_unit hc hs h.ne_nil
    rw [unitChar_of_char] at he
    rw [show Json.unicodeEscape c = Json.unicodeEscape.unit c.toNat from if_pos hc]
    exact Reads.unicode he h
  case neg =>
    have hn : c.toNat - 0x10000 < 0x100000 := by
      simp only [Char.toNat]
      omega
    have he := unicodeEscape?_pair hn h.ne_nil
    rw [Nat.add_sub_cancel' (Nat.not_lt.mp hc), Char.ofNat_toNat] at he
    rw [show Json.unicodeEscape c = _ from if_neg hc, List.append_assoc]
    exact Reads.unicode he h

theorem Reads.escape (c : Char) (h : Reads (readString start cs) s rest) :
    Reads (readString start (escape c ++ cs)) (c :: s) rest := by
  generalize he : Json.escape c = e
  rw [Json.escape] at he
  repeat' split at he
  all_goals subst he
  case isTrue hc =>
    simp only [Bool.or_eq_true, decide_eq_true_eq] at hc
    rcases hc with rfl | rfl
    · exact h.simple rfl (by decide)
    · exact h.simple rfl (by decide)
  case isFalse.isFalse.isFalse.isFalse.isFalse.isFalse.isTrue hq _ _ _ _ _ hc =>
    simp only [Bool.or_eq_true, decide_eq_true_eq, not_or, Bool.and_eq_true] at hq hc
    exact h.plain hq.left hq.right hc.left
  case isFalse.isFalse.isFalse.isFalse.isFalse.isFalse.isFalse => exact h.unicodeEscape
  all_goals
    subst c
    exact h.simple rfl (by decide)

theorem reads_escaped (s : List Char) :
    Reads (readString start (s.flatMap Json.escape ++ Text.quotation :: rest)) s rest := by
  induction s with
  | nil         => exact reads_quotation
  | cons c s hi =>
    rw [List.flatMap_cons, List.append_assoc]
    exact hi.escape c

end Json
end Gamebook
