import Mathlib
import Gamebook.Proofs.Json.Sound
import Gamebook.Proofs.Number.Canonical
import Gamebook.Proofs.Within

namespace Gamebook

namespace Numeral

variable {cs : List Char}

-- More digits in a row than a number may have.
def HasLongRun (cs : List Char) : Prop :=
  ∃ ds, ds <:+: cs ∧ (∀ c ∈ ds, c.isDigit) ∧ digitLimit < ds.length

theorem HasLongRun.of_suffix {cs' : List Char} (h : HasLongRun cs') (hs : cs' <:+ cs) : HasLongRun cs := by
  have ⟨ds, hi, h⟩ := h
  exact ⟨ds, hi.trans hs.isInfix, h⟩

end Numeral

namespace Json

open Chain

variable {source start cs : List Char} {ms : List (String × Json)}

-- A number that is too long is a long run of digits in a text.
def Failure.IsRun (source : List Char) (e : Failure) : Prop :=
  e = .numberTooLong → Numeral.HasLongRun source

theorem Failure.isRun_malformed {cause : Cause} {left : Nat} : (Failure.malformed cause left).IsRun source :=
  nofun

-- What is read up to a rest of a text.
def Limited (source : List Char) (P : α → Prop) (r : Read α cs) : Prop :=
  Within (Failure.IsRun source) (fun r => P r.1 ∧ r.2.1 <:+ source) r

theorem skip_suffix (cs : List Char) : skip cs <:+ cs :=
  List.dropWhile_suffix _

theorem suffix_of_skip {c : Char} {rest : List Char} (h : cs <:+ source) (hc : skip cs = c :: rest) : rest <:+ source :=
  ((List.suffix_cons c rest).trans (hc ▸ skip_suffix cs)).trans h

theorem unicodeEscape?_ne (cs : List Char) : unicodeEscape? cs ≠ .error .numberTooLong := by
  rw [unicodeEscape?.eq_def]
  split
  case h_1 => nofun
  case h_2 =>
    split
    case h_1 =>
      split
      case isTrue =>
        split
        case h_1 => nofun
        case h_2 => split <;> nofun
      case isFalse => nofun
    case h_2 => nofun

theorem limited_readString (h : cs <:+ source) : Limited source (fun _ => True) (readString start cs) := by
  fun_induction readString start cs with
  | case1 | case3 | case5 | case7 => exact .error Failure.isRun_malformed
  | case2 cs' => exact .ok ⟨trivial, (List.suffix_cons _ cs').trans h⟩
  | case4 cs' _ hi =>
    cases hu : unicodeEscape? cs' with
    | error e => exact .error fun he => absurd (he ▸ hu) (unicodeEscape?_ne cs')
    | ok r    =>
      have hs : cs'.drop r.2 <:+ source :=
        ((List.drop_suffix _ _).trans ((List.suffix_cons _ _).trans (List.suffix_cons _ _))).trans h
      rw [ok_bind]
      exact Within.bind (hi r.2 hs) fun _ hr => .ok ⟨trivial, hr.right⟩
  | case6 e cs' _ _ _ _ hi =>
    have hs : cs' <:+ source := ((List.suffix_cons _ _).trans (List.suffix_cons _ _)).trans h
    exact Within.bind (hi hs) fun _ hr => .ok ⟨trivial, hr.right⟩
  | case8 e cs' _ _ _ hi =>
    exact Within.bind (hi ((List.suffix_cons _ _).trans h)) fun _ hr => .ok ⟨trivial, hr.right⟩

theorem isDigit_of_mem_wholePart {c : Char} (h : c ∈ wholePart cs) : c.isDigit := by
  rw [wholePart.eq_def] at h
  split at h
  case h_1 => exact List.mem_singleton.mp h ▸ by decide
  case h_2 => exact List.all_eq_true.mp List.all_takeWhile c h

theorem wholePart_isPrefix (cs : List Char) : wholePart cs <+: cs := by
  rw [wholePart.eq_def]
  split
  case h_1 => exact List.prefix_append ['0'] _
  case h_2 => exact List.takeWhile_prefix _

-- A number that is read has as many digits as it may have.
theorem within_readNumber (h : cs <:+ source) :
    Within (Failure.IsRun source) (fun r => r.1.Sound) (readNumber cs) := by
  simp only [readNumber]
  generalize (cs.take 1).filter (· = '-') = sign
  refine .ite (.error Failure.isRun_malformed) (.ite ?_ (.ok (.float ?_)))
  · have hw : ∀ c ∈ wholePart (cs.drop sign.length), c.isDigit := fun _ => isDigit_of_mem_wholePart
    split
    case isTrue hl =>
      have hi := (wholePart_isPrefix (cs.drop sign.length)).isInfix.trans ((List.drop_suffix _ _).trans h).isInfix
      exact .error fun _ => ⟨_, hi, hw, hl⟩
    case isFalse hl =>
      have hp := Nat.lt_of_lt_of_le (Numeral.ofDigits_lt hw) (Nat.pow_le_pow_right (by decide) (Nat.le_of_not_lt hl))
      have hd : (if sign.isEmpty then (Numeral.ofDigits (wholePart (cs.drop sign.length)) : Int)
          else -Numeral.ofDigits (wholePart (cs.drop sign.length))).natAbs < 10 ^ Numeral.digitLimit := by
        split <;> simpa using hp
      exact .ok (.int (by simpa [isOversize] using hd))
  · cases hf : Numeral.unsigned? .. with
    | none   => trivial
    | some f => exact Numeral.canonical_unsigned? hf

theorem within_readScalar (h : cs <:+ source) :
    Within (Failure.IsRun source) (fun r => r.1.Sound) (readScalar cs) := by
  rw [readScalar]
  split
  case h_1 w hw =>
    have hm : ∀ w ∈ words, w.2.Sound := by
      simp only [words, List.forall_mem_cons]
      exact ⟨.null, .bool true, .bool false, .float trivial, .float trivial, .float trivial, List.forall_mem_nil _⟩
    exact .ok (hm w (List.mem_of_find?_eq_some hw))
  case h_2 => exact within_readNumber h

def AreSound (ms : List (String × Json)) : Prop :=
  (∀ m ∈ ms, m.snd.Sound) ∧ (ms.map Prod.fst).Nodup

-- The readers are limited where fewer than `n` characters are left.
structure LimitedBelow (source : List Char) (n : Nat) : Prop where
  value   : ∀ cs, cs.length < n → cs <:+ source → Limited source Json.Sound (readValue cs)
  items   : ∀ cs, cs.length < n → cs <:+ source → Limited source (fun xs => ∀ x ∈ xs, x.Sound) (readItems cs)
  members : ∀ ms cs, cs.length < n → AreSound ms → cs <:+ source → Limited source AreSound (readMembers ms cs)

namespace LimitedBelow

theorem readValue (hb : LimitedBelow source cs.length) (h : cs <:+ source) :
    Limited source Json.Sound (readValue cs) := by
  rw [readValue.eq_def]
  split
  case h_1      => exact .error Failure.isRun_malformed
  case h_2 c cs =>
    have h' : cs <:+ source := (List.suffix_cons _ _).trans h
    have hl : (skip cs).length < (c :: cs).length := Nat.lt_succ_of_le (length_skip_le cs)
    refine Within.ite ?string (Within.ite ?object (Within.ite ?array ?scalar))
    case string => exact Within.bind (limited_readString h') fun _ hr => .ok ⟨.str _, hr.right⟩
    case object =>
      dsimp only
      split
      case h_1 hc => exact .ok ⟨.obj (List.forall_mem_nil _) List.nodup_nil, suffix_of_skip h' hc⟩
      case h_2 =>
        refine Within.bind (hb.members [] _ hl ⟨List.forall_mem_nil _, List.nodup_nil⟩ ((skip_suffix cs).trans h'))
          fun r hr => ?_
        exact .ok ⟨.obj hr.left.left hr.left.right, hr.right⟩
    case array =>
      dsimp only
      split
      case h_1 hc => exact .ok ⟨.arr (List.forall_mem_nil _), suffix_of_skip h' hc⟩
      case h_2 =>
        refine Within.bind (hb.items _ hl ((skip_suffix cs).trans h')) fun r hr => ?_
        exact .ok ⟨.arr hr.left, hr.right⟩
    case scalar => exact Within.bind (within_readScalar h) fun _ hr => .ok ⟨hr, (List.drop_suffix _ _).trans h'⟩

theorem readItems (hb : LimitedBelow source cs.length) (h : cs <:+ source) :
    Limited source (fun xs => ∀ x ∈ xs, x.Sound) (readItems cs) := by
  rw [readItems.eq_def]
  refine Within.bind (hb.readValue h) ?_
  rintro ⟨x, cs₁, hl⟩ ⟨hx, hs⟩
  dsimp only at hx hs ⊢
  split
  case h_1 hc => exact .ok ⟨List.forall_mem_singleton.mpr hx, suffix_of_skip hs hc⟩
  case h_2 cs₂ hc =>
    have hl₂ := Nat.lt_of_le_of_lt (length_skip_le cs₂) (Nat.lt_trans (length_lt_of_skip hc) hl)
    refine Within.bind (hb.items _ hl₂ ((skip_suffix cs₂).trans (suffix_of_skip hs hc))) fun r hr => ?_
    exact .ok ⟨List.forall_mem_cons.mpr ⟨hx, hr.left⟩, hr.right⟩
  case h_3 => exact .error Failure.isRun_malformed

theorem areSound_put {k : String} {x : Json} (hx : x.Sound) (h : AreSound ms) :
    AreSound (Ordered.put k x ms) := by
  refine ⟨fun m hm => ?_, Ordered.nodup_put h.right⟩
  rcases Ordered.mem_of_mem_put hm with rfl | hm
  · exact hx
  · exact h.left m hm

theorem readMembers (hb : LimitedBelow source cs.length) (hm : AreSound ms) (h : cs <:+ source) :
    Limited source AreSound (readMembers ms cs) := by
  rw [readMembers.eq_def]
  split
  case h_1      => exact .error Failure.isRun_malformed
  case h_2 c cs =>
    refine Within.ite (.error Failure.isRun_malformed) ?_
    refine Within.bind (limited_readString ((List.suffix_cons _ _).trans h)) ?_
    rintro ⟨k, cs₁, hl⟩ ⟨_, hs⟩
    dsimp only at hs ⊢
    split
    case h_1 cs₂ hc =>
      have hl₂ := Nat.lt_of_le_of_lt (length_skip_le cs₂) (Nat.lt_trans (length_lt_of_skip hc) hl)
      have hs₂ := (skip_suffix cs₂).trans (suffix_of_skip hs hc)
      refine Within.bind (hb.value _ (Nat.lt_succ_of_lt hl₂) hs₂) ?_
      rintro ⟨x, cs₃, hl₃⟩ ⟨hx, hs₃⟩
      dsimp only at hx hs₃ ⊢
      have hp := areSound_put (k := String.ofList k) hx hm
      split
      case h_1 hc' => exact .ok ⟨hp, suffix_of_skip hs₃ hc'⟩
      case h_2 cs₄ hc' =>
        have hl₃ := Nat.lt_trans (length_lt_of_skip hc') (Nat.lt_trans hl₃ hl₂)
        have hl₄ := Nat.lt_of_le_of_lt (length_skip_le cs₄) hl₃
        have hs₄ := (skip_suffix cs₄).trans (suffix_of_skip hs₃ hc')
        exact Within.bind (hb.members _ _ (Nat.lt_succ_of_lt hl₄) hp hs₄) fun _ hr => .ok hr
      case h_3 => exact .error Failure.isRun_malformed
    case h_2 => exact .error Failure.isRun_malformed

theorem mono {m n : Nat} (h : LimitedBelow source n) (hm : m ≤ n) : LimitedBelow source m where
  value cs hl      := h.value cs (Nat.lt_of_lt_of_le hl hm)
  items cs hl      := h.items cs (Nat.lt_of_lt_of_le hl hm)
  members ms cs hl := h.members ms cs (Nat.lt_of_lt_of_le hl hm)

end LimitedBelow

theorem limitedBelow (source : List Char) (n : Nat) : LimitedBelow source n := by
  induction n with
  | zero => constructor <;> intros <;> contradiction
  | succ n hi =>
    have h {cs : List Char} (hl : cs.length < n + 1) : LimitedBelow source cs.length := hi.mono (Nat.le_of_lt_succ hl)
    exact {
      value   := fun _ hl => (h hl).readValue
      items   := fun _ hl => (h hl).readItems
      members := fun _ _ hl => (h hl).readMembers
    }

theorem within_readDocument (cs : List Char) : Within (Failure.IsRun cs) Json.Sound (readDocument cs) := by
  rw [readDocument]
  refine .ite (.error Failure.isRun_malformed) ?_
  refine Within.bind ((limitedBelow cs _).readValue (skip_suffix cs)) fun r hr => ?_
  dsimp only
  split
  case h_1 => exact .ok hr.left
  case h_2 => exact .error Failure.isRun_malformed

-- Whatever is read can be told again.
theorem sound_of_read {text : String} {j : Json} (h : read text = .ok j) : j.Sound := by
  have hw := within_readDocument text.toList
  rw [read] at h
  split at h <;> cases h
  rename_i hd
  exact (hd ▸ hw).of_ok

theorem isWritable_of_read {text : String} {j : Json} (h : read text = .ok j) : j.IsWritable :=
  (sound_of_read h).isWritable

-- Only texts with a long run of digits in them have numbers that are too long.
theorem hasLongRun_of_read {text : String} (h : read text = .error .numberTooLong) :
    Numeral.HasLongRun text.toList := by
  have hw := within_readDocument text.toList
  rw [read] at h
  split at h <;> cases h
  rename_i hd
  exact (hd ▸ hw).of_error rfl

section

variable {rest : List Char} {n : Nat}

-- Where a number is too long, all readers around it fail.

theorem readNumber_of_overlong (hn : 10 ^ Numeral.digitLimit ≤ n) (h : Ends rest) :
    readNumber (Nat.toDigits 10 n ++ rest) = .error .numberTooLong := by
  have ⟨c, ds, hc⟩ := List.exists_cons_of_ne_nil (Nat.toDigits_ne_nil (n := n) (b := 10))
  have hd : c ≠ '-' := ne_of_isDigit (Numeral.isDigit_of_mem (hc ▸ List.mem_cons_self)) (by decide)
  have hs : ((Nat.toDigits 10 n ++ rest).take 1).filter (· = '-') = [] := by
    simp [hc, hd]
  have hl : Numeral.digitLimit < (Nat.toDigits 10 n).length := by
    rw [← not_le, Nat.length_toDigits_le_iff (by decide) (by decide)]
    exact not_lt.mpr hn
  have he : ¬(Nat.toDigits 10 n).isEmpty := by
    simp
  simp only [readNumber, hs, List.length_nil, List.drop_zero, wholePart_toDigits n h, List.drop_left', fraction_eq_nil h,
    exponent_eq_nil h, Nat.add_zero, List.isEmpty_nil, Bool.and_self, if_true, if_neg he, if_pos hl]

theorem readValue_of_overlong (hn : 10 ^ Numeral.digitLimit ≤ n) (h : Ends rest) :
    readValue (Nat.toDigits 10 n ++ rest) = .error .numberTooLong := by
  have ⟨c, ds, hc⟩ := List.exists_cons_of_ne_nil (Nat.toDigits_ne_nil (n := n) (b := 10))
  have hd : c.isDigit := Numeral.isDigit_of_mem (hc ▸ List.mem_cons_self)
  have hs : StartsNumber (c :: (ds ++ rest)) := ⟨c, _, rfl, .inl hd⟩
  have hr : readScalar (c :: (ds ++ rest)) = .error .numberTooLong := by
    rw [readScalar, find?_words_of_startsNumber hs]
    simpa [hc] using readNumber_of_overlong hn h
  have hq {d : Char} (hn : ¬d.isDigit) : c ≠ d := ne_of_isDigit hd hn
  rw [hc, List.cons_append, readValue.eq_def]
  simp only [if_neg (hq (d := Text.quotation) (by decide)), if_neg (hq (d := '\x7b') (by decide)),
    if_neg (hq (d := '[') (by decide)), hr]
  rfl

theorem readMembers_of_error {cs₁ cs₂ key : List Char} {e : Failure}
    (hk : Reads (readString (Text.quotation :: cs) cs) key cs₁) (hc : skip cs₁ = ':' :: cs₂)
    (hx : readValue (skip cs₂) = .error e) : readMembers ms (Text.quotation :: cs) = .error e := by
  have ⟨_, hk⟩ := hk
  rw [readMembers.eq_def]
  simp only [hk, ne_eq, not_true_eq_false, if_false, Chain.ok_bind]
  split
  case h_1 h =>
    cases hc.symm.trans h
    rw [hx]
    rfl
  all_goals simp_all

theorem readValue_of_error {e : Failure} (he : ∀ cs', skip cs ≠ '\x7d' :: cs') (h : readMembers [] (skip cs) = .error e) :
    readValue ('\x7b' :: cs) = .error e := by
  rw [readValue.eq_def]
  simp only [if_neg (show '\x7b' ≠ Text.quotation by decide), if_pos]
  rw [h]
  rfl

theorem readDocument_of_error {e : Failure} (hb : cs.head? ≠ some '\ufeff') (h : readValue (skip cs) = .error e) :
    readDocument cs = .error e := by
  rw [readDocument, if_neg hb, h]
  rfl

theorem read_of_overlong (hn : 10 ^ Numeral.digitLimit ≤ n) (k : String) :
    read (Json.obj [(k, .int n)]).render = .error .numberTooLong := by
  have ⟨c, ds, hc⟩ := List.exists_cons_of_ne_nil (Nat.toDigits_ne_nil (n := n) (b := 10))
  have hd : c.isDigit := Numeral.isDigit_of_mem (hc ▸ List.mem_cons_self)
  have hs : skip (' ' :: (Nat.toDigits 10 n ++ (newline 0 ++ ['\x7d']))) = Nat.toDigits 10 n ++ (newline 0 ++ ['\x7d']) := by
    have hq {d : Char} (hn : ¬d.isDigit) : c ≠ d := ne_of_isDigit hd hn
    have hb : skip (' ' :: (c :: ds ++ (newline 0 ++ ['\x7d']))) = skip (c :: ds ++ (newline 0 ++ ['\x7d'])) :=
      List.dropWhile_cons_of_pos (by decide)
    rw [hc, hb, List.cons_append]
    refine skip_of_not_blank ?_
    simp [isBlank, hq (d := ' ') (by decide), hq (d := '\t') (by decide), hq (d := '\n') (by decide),
      hq (d := '\r') (by decide)]
  have hw : writeIndented 0 (.obj [(k, .int n)]) =
      '\x7b' :: (newline 1 ++ (writeString k ++ (':' :: ' ' :: (Nat.toDigits 10 n ++ (newline 0 ++ ['\x7d']))))) := by
    simp [writeIndented, writeMembers, writeInt]
  have hv : readDocument (writeIndented 0 (.obj [(k, .int n)])) = .error .numberTooLong := by
    rw [hw]
    refine readDocument_of_error (by simp) ?_
    rw [skip_of_not_blank (by decide)]
    refine readValue_of_error (fun cs' h => ?_) ?_
    · rw [skip_newline, skip_string] at h
      cases h
    · rw [skip_newline, skip_string, writeString_append]
      exact readMembers_of_error (reads_escaped k.toList) (skip_of_not_blank (by decide))
        (hs.symm ▸ readValue_of_overlong hn (ends_newline 0))
  rw [read, render, String.toList_ofList, hv]

end

end Json
end Gamebook
