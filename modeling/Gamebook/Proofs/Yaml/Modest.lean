import Mathlib
import Gamebook.Proofs.Json.Limited
import Gamebook.Yaml.Scan

namespace Gamebook
namespace Yaml

open Chain

-- A text without escapes beyond the last character and without numbers that are too long.
structure Modest (cs : List Char) : Prop where
  escapes : ∀ tail n rest,
    Text.backslash :: 'U' :: tail <:+ cs → Quoted.hex? 8 0 tail = some (n, rest) → n < 0x110000
  numbers : ¬Numeral.HasLongRun cs

variable {cs cs' bs rest : List Char} {c : Cursor}

theorem Modest.of_suffix (h : Modest cs) (hs : cs' <:+ cs) : Modest cs' where
  escapes tail n rest h' := h.escapes tail n rest (h'.trans hs)
  numbers               := fun hl => h.numbers (hl.of_suffix hs)

-- Nothing goes wrong but that a text is malformed.
abbrev Fails (P : α → Prop) (x : Except Fault α) : Prop :=
  Within (· = .malformed) P x

theorem suffix_of_splitBreak? {b : Char} (h : splitBreak? cs = some (b, rest)) : rest <:+ cs := by
  unfold splitBreak? at h
  split at h
  case h_1 =>
    cases h
    exact (List.suffix_cons _ _).trans (List.suffix_cons _ _)
  case h_2 =>
    split at h
    case isTrue  => cases h; exact List.suffix_cons _ _
    case isFalse =>
      split at h
      case isTrue  => cases h; exact List.suffix_cons _ _
      case isFalse => cases h
  case h_3 => cases h

namespace Quoted

theorem hexValue?_lt {c : Char} {n : Nat} (h : Text.hexValue? c = some n) : n < 16 := by
  simp only [Text.hexValue?, Char.isDigit, Bool.and_eq_true, decide_eq_true_eq, Char.le_def,
    UInt32.le_iff_toNat_le] at h
  have hc : c.val.toNat = c.toNat := rfl
  have h9 : '9'.val.toNat = 57 := rfl
  have hf : 'f'.val.toNat = 102 := rfl
  have hF : 'F'.val.toNat = 70 := rfl
  split at h
  case isTrue => cases h; omega
  case isFalse =>
    split at h
    case isTrue => cases h; omega
    case isFalse =>
      split at h
      case isTrue  => cases h; omega
      case isFalse => cases h

theorem of_hex? {width acc n : Nat} (h : hex? width acc cs = some (n, rest)) :
    rest <:+ cs ∧ n < 16 ^ width * (acc + 1) := by
  induction width generalizing acc cs with
  | zero =>
    cases h
    exact ⟨List.suffix_rfl, by omega⟩
  | succ width hi =>
    cases cs with
    | nil       => cases h
    | cons c cs =>
      obtain ⟨v, hv, h⟩ := Option.bind_eq_some_iff.mp h
      have ⟨hs, hn⟩ := hi h
      have hv : v < 16 := hexValue?_lt hv
      refine ⟨hs.trans (List.suffix_cons _ _), Nat.lt_of_lt_of_le hn ?_⟩
      rw [Nat.pow_succ, Nat.mul_assoc]
      exact Nat.mul_le_mul_left _ (by omega)

theorem fails_breaks (cs : List Char) : Fails (fun r => r.2 <:+ cs) (breaks cs) := by
  fun_induction breaks cs with
  | case1 => exact .error rfl
  | case2 cs _ _ b rest hb _ hi =>
    have hs : rest <:+ cs := (suffix_of_splitBreak? hb).trans (List.dropWhile_suffix _)
    exact hi.bind fun _ hr => .ok (hr.trans hs)
  | case3 => exact .ok (List.dropWhile_suffix _)

theorem suffix_of_breaks (h : breaks cs = .ok (bs, rest)) : rest <:+ cs :=
  (h ▸ fails_breaks cs).of_ok

theorem malformed_of_breaks {f : Fault} (h : breaks cs = .error f) : f = .malformed :=
  (h ▸ fails_breaks cs).of_error

-- Short escapes are in range.
theorem fails_codeChar {c : Char} {n width : Nat} (h : Modest (Text.backslash :: c :: cs))
    (hw : escapeWidth? c = some width) (hx : hex? width 0 cs = some (n, rest)) : Fails (fun _ => True) (codeChar n) := by
  have hn : n < 0x110000 := by
    have ⟨_, hn⟩ := of_hex? hx
    rw [escapeWidth?] at hw
    split at hw
    case isTrue => cases hw; omega
    case isFalse =>
      split at hw
      case isTrue => cases hw; omega
      case isFalse =>
        split at hw
        case isTrue hc =>
          cases hw
          exact h.escapes cs n rest (hc ▸ List.suffix_rfl) hx
        case isFalse => cases hw
  rw [codeChar, if_pos hn]
  exact .ok trivial

theorem fails_read {double : Bool} (h : Modest cs) : Fails (fun _ => True) (read double cs) := by
  have hn {c c' : Char} {cs : List Char} : cs <:+ c :: c' :: cs := (List.suffix_cons _ _).trans (List.suffix_cons _ _)
  fun_induction read double cs with
  | case1 | case2 | case6 | case8 | case10 | case12 => exact .error rfl
  | case7 | case17 | case18                         => exact .ok trivial
  | case3 _ _ _ _ _ _ _ hb | case13 _ _ _ _ _ _ _ _ _ _ hb => exact .error (malformed_of_breaks hb)
  | case4 c cs _ _ b rest bs rest' hb _ _ hs _ _ hi =>
    have hr : rest' <:+ c :: cs :=
      ((suffix_of_breaks hb).trans (suffix_of_splitBreak? hs)).trans (List.dropWhile_suffix _)
    exact (hi (h.of_suffix hr)).map fun _ _ => trivial
  | case5 c cs _ _ _ _ _ _ hi   => exact (hi (h.of_suffix (List.dropWhile_suffix _))).map fun _ _ => trivial
  | case9 _ c cs _ _ _ _ _ hi   => exact (hi (h.of_suffix hn)).map fun _ _ => trivial
  | case11 _ c cs _ _ hw _ _ hx _ _ _ hi =>
    refine (fails_codeChar h hw hx).bind fun _ _ => (hi (h.of_suffix ?_)).map fun _ _ => trivial
    exact (of_hex? hx).left.trans hn
  | case14 _ c cs _ _ _ rest hs _ bs rest' hb _ _ _ hi =>
    have hr : rest' <:+ c :: cs := (suffix_of_breaks hb).trans (suffix_of_splitBreak? hs)
    exact (hi (h.of_suffix (hr.trans (List.suffix_cons _ _)))).map fun _ _ => trivial
  | case15 c cs _ _ _ _ hi      => exact (hi (h.of_suffix (List.suffix_cons _ _))).map fun _ _ => trivial
  | case16 _ cs _ hi            => exact (hi (h.of_suffix hn)).map fun _ _ => trivial
  | case19 c cs _ _ _ hi        => exact (hi (h.of_suffix (List.suffix_cons _ _))).map fun _ _ => trivial

end Quoted
end Yaml
end Gamebook
