import Mathlib
import Gamebook.Proofs.Yaml.Modest

namespace Gamebook
namespace Yaml

open Chain

variable {source cs : List Char} {c d e : Cursor} {s : Scanner} {t : Token}

-- A cursor that has been moved forward, or not at all.
def Cursor.Precedes (c d : Cursor) : Prop :=
  d.rest <:+ c.rest

namespace Cursor.Precedes

theorem rfl : c.Precedes c :=
  List.suffix_rfl

theorem trans (h : c.Precedes d) (h' : d.Precedes e) : c.Precedes e :=
  List.IsSuffix.trans h' h

theorem skip (c : Cursor) (n : Nat) : c.Precedes (c.skip n) := by
  rw [Precedes, rest_skip]
  exact List.drop_suffix _ _

theorem skipWhile (c : Cursor) (p : Char → Bool) : c.Precedes (c.skipWhile p) :=
  skip c _

theorem moveTo (c : Cursor) (rest : List Char) : c.Precedes (c.moveTo rest) :=
  skip c _

-- Spaces and a comment.
theorem skipComment (c : Cursor) : c.Precedes (if (c.skipWhile (· = ' ')).peek = some '#' then
    (c.skipWhile (· = ' ')).skipWhile (!isBreak ·) else c.skipWhile (· = ' ')) := by
  split
  case isTrue  => exact (skipWhile c _).trans (skipWhile _ _)
  case isFalse => exact skipWhile c _

end Cursor.Precedes

open Cursor (Precedes)

-- What the readers of single tokens fail with, and how far they come.

namespace Property

theorem fails_expect (p : Bool) : Fails (fun _ => True) (expect p) := by
  cases p
  case true  => exact .ok trivial
  case false => exact .error rfl

theorem fails_word (cs : List Char) : Fails (fun r => r.2 <:+ cs) (word cs) :=
  (fails_expect _).bind fun _ _ => .ok (List.dropWhile_suffix _)

theorem fails_anchor (cs : List Char) : Fails (fun _ => True) (anchor cs) :=
  (fails_word cs).bind fun _ _ => (fails_expect _).map fun _ _ => trivial

theorem fails_escapedBytes (cs : List Char) : Fails (fun _ => True) (escapedBytes cs) := by
  fun_induction escapedBytes cs with
  | case1 _ _ _ _ _ _ _ hi => exact hi.map fun _ _ => trivial
  | case2 | case3          => exact .error rfl
  | case4                  => exact .ok trivial

theorem fails_uriChars (fuel : Nat) (cs : List Char) : Fails (fun _ => True) (uriChars fuel cs) := by
  fun_induction uriChars fuel cs with
  | case1 | case3     => exact .ok trivial
  | case2 _ _ _ _ _ hi =>
    refine (fails_escapedBytes _).bind fun _ _ => ?_
    dsimp only
    split
    case h_1 => exact (hi _).map fun _ _ => trivial
    case h_2 => exact .error rfl

theorem fails_uri (cs : List Char) : Fails (fun _ => True) (uri cs) :=
  (fails_expect _).bind fun _ _ => (fails_uriChars _ _).map fun _ _ => trivial

theorem fails_handle (cs : List Char) : Fails (fun _ => True) (handle cs) := by
  rw [handle.eq_def]
  split
  case h_1 =>
    dsimp only
    split
    case h_1 => exact .ok trivial
    case h_2 =>
      split
      case isTrue  => exact .ok trivial
      case isFalse => exact .error rfl
  case h_2 => exact .error rfl

theorem fails_tag (cs : List Char) : Fails (fun _ => True) (tag cs) := by
  have he (t : Token) (cs : List Char) : Fails (fun _ => True) (do expect (endsPart cs.head?); return (t, cs)) :=
    (fails_expect _).map fun _ _ => trivial
  rw [tag]
  refine .ite ?_ (.ite (he (.tag none "!") cs) (.ite ?_ ?_))
  case refine_1 =>
    refine (fails_uri _).bind fun (s, cs) _ => ?_
    exact (fails_expect _).bind fun _ _ => he (.tag none s) (cs.drop 1)
  case refine_2 =>
    refine (fails_handle _).bind fun (h, cs) _ => ?_
    exact (fails_uri cs).bind fun (s, cs) _ => he (.tag (some h) s) cs
  case refine_3 => exact (fails_uri _).bind fun (s, cs) _ => he (.tag (some "!") s) cs

theorem fails_number (h : Modest cs) : Fails (fun r => r.2 <:+ cs) (number cs) := by
  refine (fails_expect _).bind fun _ _ => ?_
  have hn : ¬Numeral.digitLimit < (cs.takeWhile (·.isDigit)).length := fun hl =>
    h.numbers ⟨_, (List.takeWhile_prefix _).isInfix, fun _ => List.all_eq_true.mp List.all_takeWhile _, hl⟩
  rw [if_neg hn]
  exact .ok (List.drop_suffix _ _)

theorem skipSpaces_suffix (cs : List Char) : skipSpaces cs <:+ cs :=
  List.dropWhile_suffix _

theorem fails_directive (h : Modest cs) : Fails (fun _ => True) (directive cs) := by
  refine (fails_word cs).bind fun ⟨name, cs₁⟩ h₁ => (fails_expect _).bind fun _ _ => ?_
  dsimp only at h₁ ⊢
  have h₁ := h.of_suffix ((skipSpaces_suffix cs₁).trans h₁)
  split
  case isTrue =>
    refine (fails_number h₁).bind fun ⟨major, cs₂⟩ h₂ => (fails_expect _).bind fun _ _ => ?_
    have h₂ := h₁.of_suffix ((List.drop_suffix 1 _).trans h₂)
    exact (fails_number h₂).bind fun _ _ => (fails_expect _).map fun _ _ => trivial
  case isFalse =>
    split
    case isTrue =>
      refine (fails_handle _).bind fun _ _ => (fails_expect _).bind fun _ _ => ?_
      exact (fails_uri _).bind fun _ _ => (fails_expect _).map fun _ _ => trivial
    case isFalse => exact .ok trivial

end Property

namespace Block

theorem fails_restOfLine (c : Cursor) : Fails c.Precedes (restOfLine c) := by
  have hc := Precedes.skipComment c
  rw [restOfLine]
  generalize (if (c.skipWhile (· = ' ')).peek = some '#' then
    (c.skipWhile (· = ' ')).skipWhile (!isBreak ·) else c.skipWhile (· = ' ')) = d at hc ⊢
  split
  case h_1 => exact .ok (hc.trans (.moveTo _ _))
  case h_2 =>
    split
    case isTrue  => exact .ok hc
    case isFalse => exact .error rfl

theorem fails_indentOf (c : Option Char) : Fails (fun _ => True) (indentOf c) := by
  rw [indentOf]
  split
  case h_1 => exact .error rfl
  case h_2 => exact .ok trivial
  case h_3 => exact .ok trivial

theorem fails_header (cs : List Char) : Fails (fun _ => True) (header cs) := by
  rw [header]
  split
  case h_1 => exact (fails_indentOf _).map fun _ _ => trivial
  case h_2 =>
    refine (fails_indentOf _).bind fun _ _ => ?_
    dsimp only
    split <;> exact .ok trivial

theorem precedes_leading (c : Cursor) (widest : Nat) : c.Precedes (leading c widest).2.2 := by
  fun_induction leading c widest with
  | case1 c                    => exact .skipWhile c _
  | case2 c _ _ _ _ _ _ _ _ _ h hi =>
    rw [h] at hi
    exact ((Precedes.skipWhile c _).trans (.moveTo _ _)).trans hi

theorem precedes_breaks (indent : Nat) (c : Cursor) : c.Precedes (breaks indent c).2 := by
  fun_induction breaks indent c with
  | case1 c                => exact .skip c _
  | case2 c _ _ _ _ _ _ h hi =>
    rw [h] at hi
    exact ((Precedes.skip c _).trans (.moveTo _ _)).trans hi

theorem precedes_of_break {bs : List Char} (h : (match splitBreak? c.rest with
    | some (b, rest) => ([b], c.moveTo rest)
    | none           => ([], c)) = (bs, d)) : c.Precedes d := by
  split at h
  case h_1 => cases h; exact .moveTo c _
  case h_2 => cases h; exact .rfl

theorem precedes_lines (folded : Bool) (indent fuel : Nat) (c : Cursor) :
    c.Precedes (lines folded indent fuel c).2.2.2 := by
  fun_induction lines folded indent fuel c with
  | case1 c => exact .rfl
  | case2 _ c line _ _ d h _ e h' _ _ _ _ _ _ _ hl hi =>
    have hd := precedes_breaks indent d
    rw [h'] at hd
    rw [hl] at hi
    exact (((Precedes.skip c _).trans (precedes_of_break h)).trans hd).trans hi
  | case3 _ c line _ _ d h _ e h' =>
    have hd := precedes_breaks indent d
    rw [h'] at hd
    exact ((Precedes.skip c _).trans (precedes_of_break h)).trans hd

theorem fails_read (folded : Bool) (outer : Int) (c : Cursor) :
    Fails (fun r => c.Precedes r.2) (read folded outer c) := by
  refine (fails_header c.rest).bind fun ⟨h, k⟩ _ => ?_
  dsimp only
  split
  case isTrue  => exact .error rfl
  case isFalse =>
    refine (fails_restOfLine _).bind fun d hd => ?_
    have hd : c.Precedes d := (Precedes.skip c k).trans hd
    refine .ok ?_
    cases h.indent
    case none =>
      have he := hd.trans (precedes_leading d 0)
      dsimp only
      split
      case isTrue  => exact he.trans (precedes_lines _ _ _ _)
      case isFalse => exact he
    case some n =>
      have he indent := hd.trans (precedes_breaks indent d)
      dsimp only
      split
      case isTrue  => exact (he _).trans (precedes_lines _ _ _ _)
      case isFalse => exact he _

end Block

namespace Plain

theorem precedes_breaks (c : Cursor) : c.Precedes (breaks c).2.1 := by
  fun_induction breaks c with
  | case1 c                    => exact .skipWhile c _
  | case2 c                    => exact (Precedes.skipWhile c _).trans (.moveTo _ _)
  | case3 c _ _ _ _ _ _ _ _ _ h hi =>
    rw [h] at hi
    exact ((Precedes.skipWhile c _).trans (.moveTo _ _)).trans hi

theorem precedes_gap (c : Cursor) : c.Precedes (gap c).cursor := by
  rw [gap]
  dsimp only
  split
  case h_1 => exact .skipWhile c _
  case h_2 =>
    have hd := fun rest => (Precedes.skipWhile c (· = ' ')).trans (.moveTo _ rest)
    split
    case isTrue  => exact hd _
    case isFalse => exact (hd _).trans (precedes_breaks _)

theorem precedes_read (flow : Bool) (indent : Int) (fuel : Nat) (c : Cursor) :
    c.Precedes (read flow indent fuel c).2.1 := by
  fun_induction read flow indent fuel c with
  | case1 c   => exact .rfl
  | case2 _ c => exact (Precedes.skip c _).trans (precedes_gap _)
  | case3 _ c _ _ _ _ _ _ _ h hi =>
    rw [h] at hi
    exact ((Precedes.skip c _).trans (precedes_gap _)).trans hi

end Plain

namespace Scanner

theorem precedes_skipBlank (flow : Bool) (c : Cursor) (allow : Bool) : c.Precedes (skipBlank flow c allow).1 := by
  fun_induction skipBlank flow c allow with
  | case1 c                => exact .skipComment c
  | case2 c _ _ _ _ _ _ hi => exact ((Precedes.skipComment c).trans (.moveTo _ _)).trans hi

theorem precedes_toNextToken (s : Scanner) : s.cursor.Precedes s.toNextToken.cursor := by
  have hc : s.cursor.Precedes
      (if s.cursor.index = 0 && s.cursor.peek = some '\ufeff' then s.cursor.step else s.cursor) := by
    split
    case isTrue  => exact .skip s.cursor 1
    case isFalse => exact .rfl
  exact hc.trans (precedes_skipBlank _ _ _)

-- What comes of a scanner that moves on.
def Advances (s : Scanner) (x : Except Fault Scanner) : Prop :=
  Fails (fun t => s.cursor.Precedes t.cursor) x

theorem advances_dropStaleKeys (s : Scanner) : s.Advances s.dropStaleKeys := by
  rw [dropStaleKeys]
  split
  case isTrue  => exact .error rfl
  case isFalse => exact .ok .rfl

theorem cursor_closeBlocks (s : Scanner) (column : Int) : (s.closeBlocks column).cursor = s.cursor := by
  rw [closeBlocks]
  split <;> rfl

theorem advances_forgetKey (s : Scanner) : s.Advances s.forgetKey := by
  rw [forgetKey]
  split
  case h_1 =>
    split
    case isTrue  => exact .error rfl
    case isFalse => exact .ok .rfl
  case h_2 => exact .ok .rfl

theorem advances_rememberKey (s : Scanner) : s.Advances s.rememberKey := by
  rw [rememberKey]
  split
  case isTrue  => exact s.advances_forgetKey.map fun _ ht => ht
  case isFalse => exact .ok .rfl

theorem advances_closeDocument (s : Scanner) : s.Advances s.closeDocument :=
  (advances_forgetKey _).map fun _ ht => s.cursor_closeBlocks (-1) ▸ ht

theorem advances_openEntry (s : Scanner) (t : Token) : s.Advances (s.openEntry t) := by
  rw [openEntry]
  split
  case isTrue  => exact .ok .rfl
  case isFalse =>
    split
    case isTrue  => exact .error rfl
    case isFalse =>
      rw [openBlock]
      split <;> exact .ok .rfl

theorem advances_fetchDirective (h : Modest s.cursor.rest) : s.Advances s.fetchDirective := by
  refine s.advances_closeDocument.bind fun t ht => ?_
  refine (Property.fails_directive (h.of_suffix ((List.drop_suffix 1 _).trans ht))).bind fun ⟨d, rest⟩ _ => ?_
  exact (Block.fails_restOfLine _).map fun c hc => ht.trans ((Precedes.moveTo _ _).trans hc)

theorem advances_fetchSeparator (s : Scanner) (t : Token) : s.Advances (s.fetchSeparator t) :=
  s.advances_closeDocument.map fun _ ht => ht.trans (.skip _ 3)

theorem advances_fetchFlowStart (s : Scanner) (t : Token) : s.Advances (s.fetchFlowStart t) :=
  s.advances_rememberKey.map fun _ ht => ht.trans (.skip _ 1)

theorem advances_fetchFlowEnd (s : Scanner) (t : Token) : s.Advances (s.fetchFlowEnd t) := by
  rw [fetchFlowEnd]
  split
  case isTrue  => exact .error rfl
  case isFalse => exact s.advances_forgetKey.map fun _ ht => ht.trans (.skip _ 1)

theorem advances_fetchFlowEntry (s : Scanner) : s.Advances s.fetchFlowEntry :=
  (advances_forgetKey { s with allowKey := true }).map fun _ ht => ht.trans (.skip _ 1)

theorem advances_fetchBlockEntry (s : Scanner) : s.Advances s.fetchBlockEntry :=
  (s.advances_openEntry _).bind fun t ht =>
    (advances_forgetKey { t with allowKey := true }).map fun _ hu => ht.trans (hu.trans (.skip _ 1))

theorem advances_fetchKey (s : Scanner) : s.Advances s.fetchKey :=
  (s.advances_openEntry _).bind fun t ht =>
    (advances_forgetKey { t with allowKey := !t.inFlow }).map fun _ hu => ht.trans (hu.trans (.skip _ 1))

theorem advances_fetchValue (s : Scanner) : s.Advances s.fetchValue := by
  rw [fetchValue]
  split
  case h_1 =>
    dsimp only [openBlock]
    refine .ok ?_
    split
    case isTrue => exact .skip _ 1
    case isFalse => split <;> exact .skip _ 1
  case h_2 =>
    exact (s.advances_openEntry _).bind fun t ht =>
      (advances_forgetKey { t with allowKey := !t.inFlow }).map fun _ hu => ht.trans (hu.trans (.skip _ 1))

theorem advances_fetchNamed {read : List Char → Except Fault (Property.Rest Token)} (s : Scanner)
    (h : ∀ cs, Fails (fun _ => True) (read cs)) : s.Advances (s.fetchNamed read) :=
  s.advances_rememberKey.bind fun _ ht => (h _).map fun _ _ => ht.trans (.moveTo _ _)

theorem advances_fetchBlockScalar (s : Scanner) (folded : Bool) : s.Advances (s.fetchBlockScalar folded) :=
  (advances_forgetKey { s with allowKey := true }).bind fun _ ht =>
    (Block.fails_read _ _ _).map fun _ hc => ht.trans ((Precedes.skip _ 1).trans hc)

theorem advances_fetchQuoted (h : Modest s.cursor.rest) (double : Bool) : s.Advances (s.fetchQuoted double) := by
  refine s.advances_rememberKey.bind fun t ht => ?_
  have h' := h.of_suffix ((List.drop_suffix 1 _).trans ht)
  exact (Quoted.fails_read h').map fun _ _ => ht.trans (.moveTo _ _)

theorem advances_fetchPlain (s : Scanner) : s.Advances s.fetchPlain :=
  s.advances_rememberKey.map fun _ ht => ht.trans (Plain.precedes_read _ _ _ _)

theorem advances_fetch (h : Modest s.cursor.rest) (c : Char) : s.Advances (s.fetch c) := by
  have hn {f : String × List Char → Token × List Char} (cs : List Char) :
      Fails (fun _ => True) ((Property.anchor cs).map f) :=
    (Property.fails_anchor cs).map fun _ _ => trivial
  rw [fetch]
  refine .ite (advances_fetchDirective h) ?_
  refine .ite (s.advances_fetchSeparator _) (.ite (s.advances_fetchSeparator _) ?_)
  refine .ite (s.advances_fetchFlowStart _) (.ite (s.advances_fetchFlowStart _) ?_)
  refine .ite (s.advances_fetchFlowEnd _) (.ite (s.advances_fetchFlowEnd _) (.ite s.advances_fetchFlowEntry ?_))
  refine .ite s.advances_fetchBlockEntry (.ite s.advances_fetchKey (.ite s.advances_fetchValue ?_))
  refine .ite (s.advances_fetchNamed hn) (.ite (s.advances_fetchNamed hn) ?_)
  refine .ite (s.advances_fetchNamed Property.fails_tag) ?_
  refine .ite (s.advances_fetchBlockScalar _) (.ite (s.advances_fetchBlockScalar _) ?_)
  refine .ite (advances_fetchQuoted h _) (.ite (advances_fetchQuoted h _) ?_)
  exact .ite s.advances_fetchPlain (.error rfl)

theorem fails_run (fuel : Nat) (h : Modest s.cursor.rest) : Fails (fun _ => True) (run fuel s) := by
  induction fuel generalizing s with
  | zero         => exact .error rfl
  | succ fuel hi =>
    refine (advances_dropStaleKeys s.toNextToken).bind fun t ht => ?_
    have ht : s.cursor.Precedes (t.closeBlocks t.column).cursor :=
      t.cursor_closeBlocks _ ▸ s.precedes_toNextToken.trans ht
    dsimp only
    split
    case h_1 c _ => exact (advances_fetch (h.of_suffix ht) c).bind fun u hu => hi (h.of_suffix (ht.trans hu))
    case h_2     => exact (advances_forgetKey _).map fun _ _ => trivial

end Scanner

-- Nothing in a modest text stops a scanner, unless the text is malformed.
theorem fails_scan (h : Modest cs) : Fails (fun _ => True) (Token.scan cs) := by
  rw [Token.scan]
  split
  case isTrue  => exact Scanner.fails_run _ h
  case isFalse => exact .error rfl

end Yaml
end Gamebook
