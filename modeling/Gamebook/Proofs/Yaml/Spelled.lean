import Mathlib
import Gamebook.Proofs.Yaml.Double
import Gamebook.Proofs.Yaml.Plain
import Gamebook.Proofs.Yaml.Single
import Gamebook.Yaml.Scan

namespace Gamebook
namespace Yaml

-- What a text is read as once it has been written. Only apostrophes may change it.
def heard (s : String) : String :=
  match Style.choose s.toList with
  | .single => String.ofList (Single.echo s.toList)
  | _       => s

def isPlain (s : String) : Bool :=
  match Style.choose s.toList with
  | .plain => true
  | _      => false

-- How a text is written on one line.
def spelling (s : String) : List Char :=
  match Style.choose s.toList with
  | .plain  => s.toList
  | .single => Text.apostrophe :: (Single.doubled s.toList ++ [Text.apostrophe])
  | .double => Text.quotation :: (Double.escaped s.toList ++ [Text.quotation])

-- A scalar, and a way to write it whose further lines start at a column.
inductive Spelled (column : Nat) : Token → List Char → Prop
  | plain  : Style.allowsPlain cs → cs ≠ [] → Plain.Folded column cs w →
      Spelled column (.scalar (String.ofList cs) true) w
  | single : Single.Fit cs → Single.Wrapped column cs w →
      Spelled column (.scalar (String.ofList (Single.echo cs)) false) (Text.apostrophe :: (w ++ [Text.apostrophe]))
  | double : Double.Escaped column cs w →
      Spelled column (.scalar (String.ofList cs) false) (Text.quotation :: (w ++ [Text.quotation]))

variable {column : Nat} {p : Pen} {s : String} {c : Char} {cs w : List Char} {t : Token}

theorem writePlain_spelled (column : Nat) (split : Bool) (ha : Style.allowsPlain cs) (hn : cs ≠ []) :
    ∃ w, p.Writes (writePlain column split p cs) w ∧ Spelled column (.scalar (String.ofList cs) true) w ∧
      (¬split → w = cs) := by
  have ⟨w, ht, hw, hs, hf⟩ := Plain.writeWords_folded column split
    (if p.blank then p else p.write [' ']).occupied cs (by simp)
  refine ⟨w, ⟨?_, hf⟩, .plain ha hn hw, hs⟩
  rw [writePlain, ht, Pen.text_occupied]
  split <;> simp

theorem writeSingle_spelled (split : Bool) (h0 : column ≠ 0) (hw : column < Pen.width) (hf : Single.Fit cs) :
    ∃ w, p.Writes (writeSingle column split p cs) (Text.apostrophe :: (w ++ [Text.apostrophe])) ∧
      Single.Wrapped column cs w ∧ (¬split → ¬Style.isMultiline cs → w = Single.doubled cs) := by
  have ⟨w, ht, hw, hd⟩ := Single.writeSingleBody_wrapped split true
    (p.mark [Text.apostrophe] true false false) h0 (Nat.le_of_lt hw) hf
  refine ⟨w, ⟨?_, by simp [writeSingle]⟩, hw, hd⟩
  simp only [writeSingle, Pen.text_mark, ht]
  cases p.blank <;> simp

theorem writeDouble_spelled (split : Bool) (cs : List Char) (hw : column < Pen.width) :
    ∃ w, p.Writes (writeDouble column split p cs) (Text.quotation :: (w ++ [Text.quotation])) ∧
      Double.Escaped column cs w ∧ (¬split → w = Double.escaped cs) := by
  have ⟨w, ht, hw, hd, _⟩ := Double.writeDoubleBody_escaped split true
    (p.mark [Text.quotation] true false false) [] cs hw (by simp)
  refine ⟨w, ⟨?_, by simp [writeDouble]⟩, hw, hd⟩
  simp only [writeDouble, Pen.text_mark, ht]
  cases p.blank <;> simp

theorem choose_cases (cs : List Char) :
    Style.choose cs = .plain ∧ Style.allowsPlain cs ∧ Implicit.isText cs ∨
    Style.choose cs = .single ∧ Single.Fit cs ∨ Style.choose cs = .double := by
  rw [Style.choose]
  split
  case isTrue h => exact .inl ⟨rfl, by simpa using h⟩
  case isFalse =>
    split
    case isTrue h => exact .inr (.inl ⟨rfl, Single.fit_of_allowsSingle h⟩)
    case isFalse  => exact .inr (.inr rfl)

theorem not_isText_nil : ¬Implicit.isText [] := by
  decide

-- Every text is written as the scalar that it is read as.
theorem writeText_spelled (split : Bool) (s : String) (h0 : column ≠ 0) (hw : column < Pen.width) :
    ∃ w, p.Writes (writeText column split p s) w ∧ Spelled column (.scalar (heard s) (isPlain s)) w ∧
      (¬split → ¬Style.isMultiline s.toList → w = spelling s) := by
  have hc := choose_cases s.toList
  unfold writeText heard isPlain spelling
  dsimp only
  generalize Style.choose s.toList = style at hc ⊢
  rcases hc with ⟨rfl, ha, ht⟩ | ⟨rfl, hf⟩ | rfl
  · have hn : s.toList ≠ [] := fun he => not_isText_nil (he ▸ ht)
    have ⟨w, hp, hw, hd⟩ := writePlain_spelled (p := p) column split ha hn
    rw [String.ofList_toList] at hw
    exact ⟨w, hp, hw, fun h _ => hd h⟩
  · have ⟨w, hp, hw, hd⟩ := writeSingle_spelled (p := p) split h0 hw hf
    exact ⟨_, hp, .single hf hw, fun h hm => by rw [hd h hm]⟩
  · have ⟨w, hp, hw, hd⟩ := writeDouble_spelled (p := p) split s.toList hw
    have hw := Spelled.double hw
    rw [String.ofList_toList] at hw
    exact ⟨_, hp, hw, fun h _ => by rw [hd h]⟩

-- Only texts between apostrophes change, and only next line characters in them.

theorem heard_cases (s : String) :
    heard s = s ∧ ('\x85' ∉ s.toList ∨ ¬Style.allowsSingle s.toList) ∨
    heard s = String.ofList (Single.echo s.toList) ∧ '\x85' ∈ s.toList ∧ Style.allowsSingle s.toList := by
  by_cases hn : '\x85' ∈ s.toList
  case neg =>
    refine .inl ⟨?_, .inl hn⟩
    unfold heard
    rw [Single.echo_eq_self hn, String.ofList_toList]
    split <;> rfl
  case pos =>
    have hp : ¬Style.allowsPlain s.toList := by
      intro hp
      simp only [Style.allowsPlain, Bool.and_eq_true, Bool.not_eq_true', Style.isMultiline] at hp
      exact List.any_eq_false.mp hp.1.1.1.1.2 _ hn (by decide)
    by_cases hs : Style.allowsSingle s.toList
    case pos =>
      have hc : Style.choose s.toList = .single := by simp [Style.choose, hp, hs]
      refine .inr ⟨?_, hn, hs⟩
      unfold heard
      rw [hc]
    case neg =>
      have hc : Style.choose s.toList = .double := by simp [Style.choose, hp, hs]
      refine .inl ⟨?_, .inr hs⟩
      unfold heard
      rw [hc]

theorem not_mem_ofList_echo (cs : List Char) : '\x85' ∉ (String.ofList (Single.echo cs)).toList := by
  rw [String.toList_ofList]
  exact Single.not_mem_echo

theorem heard_eq_self_iff : heard s = s ↔ ('\x85' ∈ s.toList → ¬Style.allowsSingle s.toList) := by
  rcases heard_cases s with ⟨he, h⟩ | ⟨he, hn, hs⟩
  · exact iff_of_true he fun hn => h.resolve_left (not_not_intro hn)
  · refine iff_of_false (fun h => ?_) fun h => h hn hs
    exact not_mem_ofList_echo s.toList (he ▸ h.symm ▸ hn)

theorem heard_eq_self (h : '\x85' ∉ s.toList) : heard s = s :=
  heard_eq_self_iff.mpr fun hn => absurd hn h

theorem heard_heard : heard (heard s) = heard s := by
  rcases heard_cases s with ⟨he, _⟩ | ⟨he, _⟩
  · rw [he, he]
  · exact heard_eq_self (he ▸ not_mem_ofList_echo s.toList)

-- Only characters that may be read are written.

theorem isAllowed_of_not_isSpecial (h : ¬Style.isSpecial c) : isAllowed c := by
  simp only [Style.isSpecial, Bool.not_eq_true', Bool.not_eq_false, Bool.or_eq_true, Bool.and_eq_true,
    decide_eq_true_eq] at h
  simp only [isAllowed, Bool.or_eq_true, Bool.and_eq_true, decide_eq_true_eq]
  rcases h with ((((h | h) | h) | h) | h) | h
  · subst h
    decide
  all_goals omega

theorem isAllowed_of_isVerbatim (h : isVerbatim c) : isAllowed c := by
  have hv : c.toNat < 0xd800 ∨ 0xdfff < c.toNat := by
    have hv := c.valid
    simp only [UInt32.isValidChar, Nat.isValidChar] at hv
    simp only [Char.toNat]
    omega
  simp only [isVerbatim, Bool.and_eq_true, Bool.or_eq_true, decide_eq_true_eq] at h
  simp only [isAllowed, Bool.or_eq_true, Bool.and_eq_true, decide_eq_true_eq]
  omega

-- Escapes have only printable characters of ASCII, and no spaces.

def isGraphic (c : Char) : Bool :=
  0x20 < c.toNat && c.toNat < 0x7f

theorem isAllowed_of_isGraphic (h : isGraphic c) : isAllowed c := by
  simp only [isGraphic, Bool.and_eq_true, decide_eq_true_eq] at h
  simp only [isAllowed, Bool.or_eq_true, Bool.and_eq_true, decide_eq_true_eq]
  omega

theorem not_isBreak_of_isGraphic (h : isGraphic c) : ¬isBreak c := by
  intro hb
  simp only [isBreak, Bool.or_eq_true, decide_eq_true_eq] at hb
  rcases hb with (((hb | hb) | hb) | hb) | hb <;> exact absurd (hb ▸ h) (by decide)

theorem isGraphic_of_mem_upperHex {width n : Nat} (h : c ∈ upperHex width n) : isGraphic c := by
  have ⟨d, hd, hc⟩ := List.mem_map.mp h
  have ⟨i, hi, he⟩ := Text.exists_of_mem_hexDigits hd
  have ha : ∀ i < 16, isGraphic (Text.hexDigit i).toUpper := by decide
  exact hc ▸ he ▸ ha i hi

theorem isGraphic_of_mem_escape {d : Char} (h : c ∈ escape d) : isGraphic c := by
  have hb : isGraphic Text.backslash := by decide
  rw [escape] at h
  split at h
  case h_1 e he =>
    have ha : ∀ e ∈ shortEscapes, isGraphic e.2 := by decide
    have he := ha e (List.mem_of_find?_eq_some he)
    simp only [List.mem_cons, List.not_mem_nil, or_false] at h
    exact h.elim (· ▸ hb) (· ▸ he)
  case h_2 =>
    have hx {e : Char} {width : Nat} (he : isGraphic e) (h : c ∈ Text.backslash :: e :: upperHex width d.toNat) :
        isGraphic c := by
      cases List.mem_cons.mp h
      case inl h => exact h ▸ hb
      case inr h =>
        cases List.mem_cons.mp h
        case inl h => exact h ▸ he
        case inr h => exact isGraphic_of_mem_upperHex h
    split at h
    · exact hx (by decide) h
    · split at h <;> exact hx (by decide) h

theorem isAllowed_of_mem_newLine {column : Nat} (hc : ∀ c ∈ cs, isAllowed c) (h : c ∈ newLine column cs) :
    isAllowed c := by
  cases List.mem_cons.mp h
  case inl h => exact h ▸ by decide
  case inr h =>
    cases List.mem_append.mp h
    case inl h => exact List.eq_of_mem_replicate h ▸ by decide
    case inr h => exact hc c h

theorem Plain.Folded.allowed (h : Folded column cs w) (ha : ∀ c ∈ cs, isAllowed c) : ∀ c ∈ w, isAllowed c := by
  intro c hc
  rcases h.mem hc with h | h | h
  · exact ha c h
  · exact h ▸ by decide
  · exact h ▸ by decide

theorem Single.Wrapped.allowed (h : Wrapped column cs w) (ha : ∀ c ∈ cs, isAllowed c) : ∀ c ∈ w, isAllowed c := by
  have hs : ∀ n, ∀ c ∈ List.replicate n ' ', isAllowed c := fun n c hc => List.eq_of_mem_replicate hc ▸ by decide
  induction h with
  | nil           => exact ha
  | char _ _ _ hi =>
    rw [List.forall_mem_cons] at ha ⊢
    exact ⟨ha.left, hi ha.right⟩
  | quote _ hi =>
    simp only [List.forall_mem_cons] at ha ⊢
    exact ⟨ha.left, ha.left, hi ha.right⟩
  | spaces _ _ hi =>
    rw [List.forall_mem_append] at ha ⊢
    exact ⟨hs _, hi ha.right⟩
  | fold _ _ hi =>
    rw [List.forall_mem_cons] at ha
    exact fun c => isAllowed_of_mem_newLine (hi ha.right)
  | breaks _ _ _ hi =>
    simp only [List.forall_mem_cons, List.forall_mem_append] at ha ⊢
    refine ⟨?_, ha.left, ha.right.left, hs _, hi ha.right.right⟩
    split
    · exact List.all_eq_true.mp (by decide)
    · exact List.forall_mem_nil _

theorem Double.Escaped.allowed (h : Escaped column cs w) : ∀ c ∈ w, isAllowed c := by
  have hb : isAllowed Text.backslash := by decide
  induction h with
  | nil                => exact fun _ h => nomatch h
  | verbatim hv _ _ hi => exact List.forall_mem_cons.mpr ⟨isAllowed_of_isVerbatim hv, hi⟩
  | space _ hi         => exact List.forall_mem_cons.mpr ⟨by decide, hi⟩
  | code _ hi          => exact List.forall_mem_append.mpr ⟨fun _ h => isAllowed_of_isGraphic (isGraphic_of_mem_escape h), hi⟩
  | fold _ _ hi        => exact List.forall_mem_cons.mpr ⟨hb, fun _ => isAllowed_of_mem_newLine hi⟩
  | indent _ hi        =>
    have hi : ∀ c ∈ Text.backslash :: ' ' :: _, isAllowed c :=
      List.forall_mem_cons.mpr ⟨hb, List.forall_mem_cons.mpr ⟨by decide, hi⟩⟩
    exact List.forall_mem_cons.mpr ⟨hb, fun _ => isAllowed_of_mem_newLine hi⟩

theorem isSpecial_of_allowsPlain (h : Style.allowsPlain cs) : ∀ c ∈ cs, ¬Style.isSpecial c := by
  simp only [Style.allowsPlain, Bool.and_eq_true] at h
  exact (Single.fit_of_allowsSingle h.1.1.1.1.1).plain

theorem Spelled.allowed (h : Spelled column t w) : ∀ c ∈ w, isAllowed c := by
  have hq {q : Char} {v : List Char} (hq : isAllowed q) (hv : ∀ c ∈ v, isAllowed c) :
      ∀ c ∈ q :: (v ++ [q]), isAllowed c := by
    simp only [List.forall_mem_cons, List.forall_mem_append]
    exact ⟨hq, hv, hq, fun _ h => nomatch h⟩
  cases h with
  | plain ha _ hw  => exact hw.allowed fun c hc => isAllowed_of_not_isSpecial (isSpecial_of_allowsPlain ha c hc)
  | single hf hw   => exact hq (by decide) (hw.allowed fun c hc => isAllowed_of_not_isSpecial (hf.plain c hc))
  | double hw      => exact hq (by decide) hw.allowed

-- A text on one line has no line breaks in it.

theorem not_isBreak_of_not_isSpecial (h : ¬Style.isSpecial c) (hb : ¬Style.isLineBreak c) : ¬isBreak c := by
  rcases Style.inner_of_not_special h hb with h | h
  · exact h ▸ by decide
  · exact h.right

theorem not_isBreak_of_mem_escaped (h : c ∈ Double.escaped cs) : ¬isBreak c := by
  have ⟨d, _, hd⟩ := List.mem_flatMap.mp h
  split at hd
  case isTrue hv =>
    cases List.mem_singleton.mp hd
    by_cases hs : c = ' '
    case pos => exact hs ▸ by decide
    case neg => exact (Double.inner_of_isVerbatim hv hs).right
  case isFalse => exact not_isBreak_of_isGraphic (isGraphic_of_mem_escape hd)

theorem not_isBreak_of_mem_doubled (hs : ∀ c ∈ cs, ¬isBreak c) (h : c ∈ Single.doubled cs) : ¬isBreak c := by
  have ⟨d, hm, hd⟩ := List.mem_flatMap.mp h
  have he : c = d := by
    split at hd
    · simpa using hd
    · simpa using hd
  exact he ▸ hs d hm

theorem not_isBreak_of_mem_spelling (hm : ¬Style.isMultiline s.toList) : ∀ c ∈ spelling s, ¬isBreak c := by
  have hb : ∀ c ∈ s.toList, ¬Style.isLineBreak c := fun c hc hb => hm (List.any_eq_true.mpr ⟨c, hc, hb⟩)
  have hc := choose_cases s.toList
  unfold spelling
  generalize Style.choose s.toList = style at hc ⊢
  rcases hc with ⟨rfl, ha, _⟩ | ⟨rfl, hf⟩ | rfl
  · exact fun c hc => not_isBreak_of_not_isSpecial (isSpecial_of_allowsPlain ha c hc) (hb c hc)
  · have hs : ∀ c ∈ s.toList, ¬isBreak c := fun c hc => not_isBreak_of_not_isSpecial (hf.plain c hc) (hb c hc)
    simp only [List.forall_mem_cons, List.forall_mem_append]
    exact ⟨by decide, fun _ => not_isBreak_of_mem_doubled hs, by decide, fun _ h => nomatch h⟩
  · simp only [List.forall_mem_cons, List.forall_mem_append]
    exact ⟨by decide, fun _ => not_isBreak_of_mem_escaped, by decide, fun _ h => nomatch h⟩

-- How a scalar starts.

-- The first character of a plain text and those after it.
structure Leading (c : Char) (cs : List Char) : Prop where
  inner     : ¬isWhite c ∧ ¬isBreak c
  special   : ¬Style.isSpecial c
  mark      : ∀ d ∈ Style.startsWithSign.signs, c ≠ d
  sign      : c = '?' ∨ c = ':' ∨ c = '-' → ¬Style.isGapOrEnd cs.head?
  separator : ¬Style.startsWithSeparator (c :: cs)

theorem leading_of_allowsPlain (h : Style.allowsPlain (c :: cs)) : Leading c cs := by
  have hspecial := isSpecial_of_allowsPlain h c List.mem_cons_self
  simp only [Style.allowsPlain, Style.startsWithSign, Style.isMultiline, Style.atEnds, Bool.and_eq_true,
    Bool.not_eq_true', Bool.or_eq_false_iff, Bool.and_eq_false_iff, List.any_cons] at h
  obtain ⟨⟨⟨⟨⟨_, hbreak, _⟩, hhead, _⟩, hseparator⟩, hmark, hsign⟩, _⟩ := h
  have hspace : c ≠ ' ' := by
    intro hc
    subst hc
    simp [Style.isSpace] at hhead
  refine ⟨?_, hspecial, ?_, ?_, by simpa using hseparator⟩
  · exact (Style.inner_of_not_special hspecial (by simpa using hbreak)).resolve_left hspace
  · intro d hd hc
    rw [List.contains_eq_mem, decide_eq_false_iff_not] at hmark
    exact hmark (hc ▸ hd)
  · intro hc
    rcases hc with hc | hc | hc <;> simpa [hc] using hsign

theorem Plain.Folded.head (h : Folded column cs w) (ha : Style.allowsPlain cs) (hn : cs ≠ []) :
    ∃ c ds v, cs = c :: ds ∧ w = c :: v ∧ Folded column ds v ∧ Leading c ds := by
  cases h with
  | nil        => contradiction
  | char _ hf  => exact ⟨_, _, _, rfl, rfl, hf, leading_of_allowsPlain ha⟩
  | spaces     => exact absurd rfl (leading_of_allowsPlain ha).inner.left
  | fold       => exact absurd rfl (leading_of_allowsPlain ha).inner.left

theorem Leading.isSolid (h : Leading c cs) : isSolid c := by
  have hs : c ≠ ' ' := fun hc => h.inner.left (hc ▸ by decide)
  have hn : c ≠ '#' := h.mark '#' (by decide)
  have hm : c ≠ '\ufeff' := fun hc => h.special (hc ▸ by decide)
  simp [Yaml.isSolid, hs, hn, hm, h.inner]

theorem Spelled.starts (h : Spelled column t w) : Starts w ∧ w ≠ [] := by
  cases h with
  | plain ha hn hw =>
    have ⟨_, _, _, _, hv, _, hl⟩ := hw.head ha hn
    exact hv ▸ ⟨.cons hl.isSolid, List.cons_ne_nil _ _⟩
  | single => exact ⟨.cons (by decide), List.cons_ne_nil _ _⟩
  | double => exact ⟨.cons (by decide), List.cons_ne_nil _ _⟩

end Yaml
end Gamebook
