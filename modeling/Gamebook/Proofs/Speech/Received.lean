import Mathlib
import Gamebook.Proofs.Definition.Accepted
import Gamebook.Proofs.Speech.Recovered
import Gamebook.Proofs.Story.Uttered

namespace Gamebook

namespace FileText

variable {cs rest : List Char} {c : Char}

theorem plainLines_cons (h : c ≠ '\r') : plainLines (c :: cs) = c :: plainLines cs := by
  rw [plainLines.eq_def]
  split <;> simp_all

-- Where two texts meet, only a line feed could belong to the line end before it.
theorem plainLines_append (h : ∀ c ∈ rest.head?, c ≠ '\n') :
    plainLines (cs ++ rest) = plainLines cs ++ plainLines rest := by
  fun_induction plainLines cs with
  | case1              => rfl
  | case2 cs hi        => rw [List.cons_append, List.cons_append, plainLines, hi, List.cons_append]
  | case3 cs hn hi     =>
    rw [List.cons_append, plainLines, hi, List.cons_append]
    rintro ds he
    cases cs with
    | nil       => exact h _ (by rw [← List.nil_append rest, he]; rfl) rfl
    | cons c cs => exact hn cs (by cases he; rfl)
  | case4 c cs _ hc hi => rw [List.cons_append, plainLines_cons hc, hi, List.cons_append]

theorem plainLines_append_of_no_return (h : '\r' ∉ cs) : plainLines (cs ++ rest) = cs ++ plainLines rest := by
  induction cs with
  | nil          => rfl
  | cons c cs hi =>
    rw [List.mem_cons, not_or] at h
    rw [List.cons_append, plainLines_cons (Ne.symm h.left), hi h.right, List.cons_append]

theorem plainLines_eq_nil : plainLines cs = [] ↔ cs = [] := by
  rw [plainLines.eq_def]
  split <;> simp

theorem not_mem_plainLines (cs : List Char) : '\r' ∉ plainLines cs := by
  fun_induction plainLines cs <;> simp_all [eq_comm]

theorem plainLines_eq_self : plainLines cs = cs ↔ '\r' ∉ cs :=
  ⟨fun h => h ▸ not_mem_plainLines cs, plainLines_of_no_return⟩

end FileText

namespace Speech

open FileText

variable {cs : List Char} {name : String} {as : List (String × String)}

-- What is escaped in a text leaves line ends where they are.
theorem head?_flatMap_escapeText (h : ∀ c ∈ cs.head?, c ≠ '\n') : ∀ c ∈ (cs.flatMap escapeText).head?, c ≠ '\n' := by
  cases cs with
  | nil       => exact h
  | cons c cs =>
    rw [List.flatMap_cons, escapeText]
    split_ifs
    case neg => exact h
    all_goals simp

theorem plainLines_flatMap_escapeText (cs : List Char) :
    plainLines (cs.flatMap escapeText) = (plainLines cs).flatMap escapeText := by
  fun_induction plainLines cs with
  | case1              => rfl
  | case2 cs hi        => exact congrArg ('\n' :: ·) hi
  | case3 cs hn hi     =>
    have hh : ∀ c ∈ (cs.flatMap escapeText).head?, c ≠ '\n' := by
      refine head?_flatMap_escapeText fun c hc he => ?_
      obtain ⟨ds, rfl⟩ := List.head?_eq_some_iff.mp hc
      exact hn ds (he ▸ rfl)
    rw [List.flatMap_cons, List.flatMap_cons, ← hi]
    change plainLines (['\r'] ++ cs.flatMap escapeText) = _
    rw [plainLines_append hh]
    rfl
  | case4 c cs _ hc hi =>
    have hr : '\r' ∉ escapeText c := by
      rw [escapeText]
      split_ifs <;> simp [Ne.symm hc]
    rw [List.flatMap_cons, plainLines_append_of_no_return hr, hi, List.flatMap_cons]

theorem no_return_emptyElement (hn : '\r' ∉ name.toList) (ha : ∀ a ∈ as, '\r' ∉ a.1.toList) :
    '\r' ∉ emptyElement name as := by
  have hv : '\r' ∉ as.flatMap emptyElement.chars := by
    intro h
    have ⟨a, hm, h⟩ := List.mem_flatMap.mp h
    have hw := Xml.not_mem_value (s := a.2) (.inr (.inr (.inl rfl)))
    simp [emptyElement.chars, ha a hm, hw, Text.quotation] at h
  simp [emptyElement, hn, hv]

theorem plainLines_element (hn : '\r' ∉ name.toList) : plainLines (element name cs) = element name (plainLines cs) := by
  rw [element.eq_def, element.eq_def]
  simp only [List.isEmpty_iff, plainLines_eq_nil]
  split
  case isTrue  => exact plainLines_of_no_return (no_return_emptyElement hn (List.forall_mem_nil _))
  case isFalse =>
    have ho : '\r' ∉ '<' :: name.toList ++ ['>'] := by simp [hn]
    have hc : '\r' ∉ '<' :: '/' :: name.toList ++ ['>'] := by simp [hn]
    calc plainLines ('<' :: name.toList ++ '>' :: cs ++ '<' :: '/' :: name.toList ++ ['>'])
      _ = plainLines (('<' :: name.toList ++ ['>']) ++ (cs ++ ('<' :: '/' :: name.toList ++ ['>']))) := by simp
      _ = ('<' :: name.toList ++ ['>']) ++ (plainLines cs ++ ('<' :: '/' :: name.toList ++ ['>'])) := by
        rw [plainLines_append_of_no_return ho, plainLines_append (by simp), plainLines_of_no_return hc]
      _ = '<' :: name.toList ++ '>' :: plainLines cs ++ '<' :: '/' :: name.toList ++ ['>'] := by simp

namespace Element

-- The text that an author has written, and the address that goes with a sound.
def text : Element → String
  | paragraph s => s
  | pause _     => ""
  | audio src   => src

-- What is left of an element once it has gone through a document. Only in paragraphs are there line
-- ends of more than one kind.
def plain : Element → Element
  | paragraph s => paragraph (String.ofList (plainLines s.toList))
  | e           => e

def isPermitted (e : Element) : Bool :=
  e.text.toList.all Xml.isChar

-- An element that anyone who reads a document finds there as it is.
def IsClean : Element → Prop
  | paragraph s => ∀ c ∈ s.toList, Xml.isChar c ∧ c ≠ '\r'
  | pause _     => True
  | audio src   => ∀ c ∈ src.toList, Xml.isChar c

theorem plain_eq_self {e : Element} : e.plain = e ↔ ∀ s, e = paragraph s → '\r' ∉ s.toList := by
  cases e with
  | paragraph s =>
    simp only [plain, paragraph.injEq, forall_eq', ← plainLines_eq_self]
    rw [← String.toList_inj, String.toList_ofList]
  | _           => simp [plain]

theorem isClean_paragraph {s : String} (h : s.toList.all fun c => Xml.isChar c && c ≠ '\r') :
    (paragraph s).IsClean := by
  simpa [IsClean] using h

theorem isClean_iff {e : Element} : e.IsClean ↔ e.isPermitted ∧ e.plain = e := by
  rw [plain_eq_self]
  cases e with
  | paragraph s =>
    simp only [IsClean, isPermitted, text, List.all_eq_true, paragraph.injEq, forall_eq', forall₂_and]
    exact and_congr_right' ⟨fun h hm => h _ hm rfl, fun h c hc he => h (he ▸ hc)⟩
  | pause ms    => simp [IsClean, isPermitted, text]
  | audio src   => simp [IsClean, isPermitted, text]

theorem plainLines_chars (e : Element) : plainLines e.chars = e.plain.chars := by
  cases e with
  | paragraph s =>
    rw [chars, plainLines_element (by decide), plainLines_flatMap_escapeText, plain, chars, String.toList_ofList]
  | pause ms    => exact plainLines_of_no_return (no_return_emptyElement (by decide) (by simp))
  | audio src   => exact plainLines_of_no_return (no_return_emptyElement (by decide) (by simp))

theorem head?_chars (e : Element) : e.chars.head? = some '<' := by
  cases e with
  | paragraph s =>
    have ⟨_, h⟩ := Xml.ends_element "p" (s.toList.flatMap escapeText)
    rw [chars, h]
    rfl
  | pause ms  => rfl
  | audio src => rfl

end Element

theorem plainLines_document (es : List Element) :
    String.ofList (plainLines (document es).toList) = document (es.map Element.plain) := by
  have hc : plainLines (es.flatMap Element.chars) = (es.map Element.plain).flatMap Element.chars := by
    induction es with
    | nil          => rfl
    | cons e es hi =>
      have hr : ∀ c ∈ (es.flatMap Element.chars).head?, c ≠ '\n' := by
        cases es with
        | nil       => simp
        | cons e es => simp [List.head?_append, e.head?_chars]
      rw [List.flatMap_cons, plainLines_append hr, e.plainLines_chars, hi, List.map_cons, List.flatMap_cons]
  rw [document, String.toList_ofList, plainLines_element (by decide), hc, document]

-- No character is kept from a document, and what stands for others is permitted itself.
theorem all_escapeText (c : Char) : (escapeText c).all Xml.isChar = Xml.isChar c := by
  rw [escapeText]
  split_ifs with ha hl hg
  · exact ha ▸ rfl
  · exact hl ▸ rfl
  · exact hg ▸ rfl
  · exact Bool.and_true _

theorem all_escapeAttribute (c : Char) : (escapeAttribute c).all Xml.isChar = Xml.isChar c := by
  rw [escapeAttribute]
  split_ifs with hq hr hn ht
  · exact hq ▸ rfl
  · exact hr ▸ rfl
  · exact hn ▸ rfl
  · exact ht ▸ rfl
  · exact all_escapeText c

theorem isChar_markup : Xml.isChar '<' ∧ Xml.isChar '>' ∧ Xml.isChar '/' ∧ Xml.isChar '=' ∧ Xml.isChar ' ' ∧
    Xml.isChar Text.quotation := by
  decide

theorem all_emptyElement : (emptyElement name as).all Xml.isChar =
    (name.toList.all Xml.isChar && as.all fun a => a.1.toList.all Xml.isChar && a.2.toList.all Xml.isChar) := by
  simp [emptyElement, emptyElement.chars, all_escapeAttribute, isChar_markup]

theorem all_element : (element name cs).all Xml.isChar = (name.toList.all Xml.isChar && cs.all Xml.isChar) := by
  rw [element.eq_def]
  split
  case isTrue h => simp [all_emptyElement, List.isEmpty_iff.mp h]
  case isFalse  =>
    simp only [List.all_append, List.all_cons, List.all_nil, isChar_markup, Bool.true_and, Bool.and_true]
    cases name.toList.all Xml.isChar <;> simp

theorem isChar_of_isDigit {c : Char} (h : c.isDigit) : Xml.isChar c := by
  have ⟨hl, hu⟩ : 48 ≤ c.val.toNat ∧ c.val.toNat ≤ 57 := by
    simpa [Char.isDigit, UInt32.le_iff_toNat_le] using h
  simp only [Xml.isChar, Bool.or_eq_true, Bool.and_eq_true, decide_eq_true_eq]
  exact .inl (.inr ⟨Nat.le_trans (by decide) hl, hu.trans (by decide)⟩)

theorem all_intText (i : Int) : (Scalar.intText i).toList.all Xml.isChar := by
  have hd : (Nat.toDigits 10 i.natAbs).all Xml.isChar :=
    List.all_eq_true.mpr fun _ hc => isChar_of_isDigit (Numeral.isDigit_of_mem hc)
  rw [Scalar.intText, String.toList_ofList]
  split
  case isTrue  => exact hd
  case isFalse => exact hd

theorem Element.all_chars (e : Element) : e.chars.all Xml.isChar = e.text.toList.all Xml.isChar := by
  cases e with
  | paragraph s =>
    simp only [chars, all_element, List.all_flatMap, all_escapeText]
    rfl
  | pause ms    =>
    simp only [chars, all_emptyElement, List.all_cons, List.all_nil, String.toList_append, List.all_append, all_intText]
    rfl
  | audio src   =>
    simp only [chars, all_emptyElement, List.all_cons, List.all_nil, Bool.and_true]
    rfl

theorem all_document (es : List Element) : (document es).toList.all Xml.isChar = es.all Element.isPermitted := by
  simp only [document, String.toList_ofList, all_element, List.all_flatMap, Element.all_chars]
  rfl

theorem no_return_document {es : List Element} : '\r' ∉ (document es).toList ↔ ∀ e ∈ es, e.plain = e := by
  rw [← plainLines_eq_self, ← String.ofList_inj, plainLines_document, String.ofList_toList, document_inj]
  nth_rewrite 2 [← List.map_id es]
  exact List.map_inj_left

-- What one who keeps to all the rules finds in a document.
theorem parse_document (es : List Element) : Xml.parse (document es) =
    if es.all Element.isPermitted then some (.element "speak" [] (es.map fun e => e.plain.toXml)) else none := by
  rw [Xml.parse, all_document, plainLines_document, read_document, List.map_map]
  rfl

theorem parse_document_eq {es : List Element} :
    Xml.parse (document es) = some (.element "speak" [] (es.map Element.toXml)) ↔ ∀ e ∈ es, e.IsClean := by
  have hm : (es.map fun e => e.plain.toXml) = es.map Element.toXml ↔ ∀ e ∈ es, e.plain = e := by
    rw [List.map_inj_left]
    refine forall₂_congr fun e _ => ⟨fun h => ?_, congrArg Element.toXml⟩
    have h := congrArg Element.ofXml? h
    rwa [Element.ofXml?_toXml, Element.ofXml?_toXml, Option.some.injEq] at h
  simp only [Element.isClean_iff, forall₂_and, ← hm, parse_document, ← List.all_eq_true]
  split <;> simp_all

end Speech

-- A directive that can be brought across in a document.
def Directive.IsClean (address : String) (d : Directive) : Prop :=
  ∀ e ∈ d.told address, e.IsClean

-- An adventure whose author has written nothing that cannot be brought across.
structure PlaceGraph.IsClean (g : PlaceGraph) (address : String) : Prop where
  texts   : ∀ p ∈ g.places.values, ∀ d ∈ p.texts, d.IsClean address
  actions : ∀ p ∈ g.places.values, ∀ as ∈ p.choices.values, ∀ a ∈ as, ∀ d, a.Utters d → d.IsClean address

variable {g : PlaceGraph} {r : Response} {address : String} {speech : Speech} {e : Speech.Element} {d : Directive}

theorem Directive.isClean_own (h : d = .say Player.apology ∨ d = .finished ∨ d = .notUnderstood ∨ d = .bye) :
    d.IsClean address := by
  have hc (s : String) (h : s.toList.all fun c => Xml.isChar c && c ≠ '\r') : (Directive.say s).IsClean address :=
    List.forall_mem_singleton.mpr (Speech.Element.isClean_paragraph h)
  rcases h with rfl | rfl | rfl | rfl
  · exact hc _ (by decide)
  · exact nofun
  · exact hc Speech.notUnderstood (by decide)
  · exact hc Speech.goodBye (by decide)

theorem PlaceGraph.Utters.isClean (h : g.Utters d) (hg : g.IsClean address) : d.IsClean address := by
  cases h with
  | text hp hd          => exact hg.texts _ hp d hd
  | action hp has ha hd => exact hg.actions _ hp _ has _ ha d hd
  | own hd              => exact Directive.isClean_own (.inr (.inr hd))

namespace PlaceGraph.Returns

theorem isClean (h : g.Returns r) (hg : g.IsClean address) (he : e ∈ r.told address) : e.IsClean := by
  rw [Response.told_eq] at he
  have ⟨d, hd, he⟩ := List.mem_flatMap.mp he
  rcases h.uttered hd with hd | hd | hd
  · exact Directive.isClean_own (.inl hd) e he
  · exact Directive.isClean_own (.inr (.inl hd)) e he
  · exact hd.isClean hg e he

theorem text_eq (h : g.Returns r) (hs : Speech.ofResponse address r = .ok speech) :
    speech.text = Speech.document (r.told address) := by
  have hm : r.IsMeasured := Speech.ofResponse_eq_ok.mp ⟨speech, hs⟩
  have hd : ∀ d ∈ r.flatten, (∀ f, d = .delay f → f.isFinite ∧ ¬f.isNegative) ∧ d.IsShort := by
    intro d hd
    have ht := PlaceGraph.tells_of_uttered (h.uttered hd)
    refine ⟨fun f hf => ?_, (Directive.isMeasured_iff ht).mp (hm d hd)⟩
    obtain ⟨_, _, _, _, _, _, _, hv⟩ := (ht.resolve_left (by simp [hf])).pauses f hf
    exact of_delay_eq_ok hv
  rw [Speech.ofResponse_eq hd] at hs
  cases hs
  rfl

end PlaceGraph.Returns

namespace Speech

-- A document brings across what is told if and only if no character in it is forbidden and no carriage
-- return is in a paragraph.
theorem received_iff (hr : g.Returns r) (hs : ofResponse address r = .ok speech) :
    (speech.text.toList.all Xml.isChar ↔ ∀ e ∈ r.told address, e.isPermitted) ∧
    ('\r' ∉ speech.text.toList ↔ ∀ e ∈ r.told address, e.plain = e) ∧
    Xml.parse speech.text = (if (r.told address).all Element.isPermitted then
      some (.element "speak" [] ((r.told address).map fun e => e.plain.toXml)) else none) ∧
    (Xml.parse speech.text = some (.element "speak" [] ((r.told address).map Element.toXml)) ↔
      ∀ e ∈ r.told address, e.IsClean) ∧
    (g.IsClean address → ∀ e ∈ r.told address, e.IsClean) := by
  rw [hr.text_eq hs]
  refine ⟨?_, no_return_document, parse_document _, parse_document_eq, fun hg e he => hr.isClean hg he⟩
  rw [all_document, List.all_eq_true]

-- A start at which one choice says two lines, with a carriage return between them, and another one a
-- text that looks like markup.
def hail : PlaceGraph where
  places := ⟨[("start", {
    id      := "start"
    choices := ⟨[(.option 0, [⟨.say, "Who\rgoes?"⟩]), (.option 1, [⟨.say, "I & <you>"⟩])], by decide⟩
  })], by decide⟩

def hailText : String :=
  "\x7b\"places\": \x7b\"start\": \x7b\"choices\": \x7b" ++
    "\"1\": [\x7b\"Say\": \"Who\\rgoes?\"\x7d], \"2\": [\x7b\"Say\": \"I & <you>\"\x7d]\x7d\x7d\x7d\x7d"

theorem received_hail :
    hail.Returns (.single (.say "I & <you>")) ∧
    ofResponse "" (.single (.say "I & <you>")) = .ok ⟨"<speak><p>I &amp; &lt;you&gt;</p></speak>", false⟩ ∧
    Xml.parse "<speak><p>I &amp; &lt;you&gt;</p></speak>" =
      some (.element "speak" [] [.element "p" [] [.text "I & <you>"]]) := by
  have hr : hail.Returns (.single (.say "I & <you>")) :=
    ⟨.morning, .fresh "traveller" .morning, .option 1, .inl rfl⟩
  have hs : ofResponse "" (.single (.say "I & <you>")) = .ok ⟨"<speak><p>I &amp; &lt;you&gt;</p></speak>", false⟩ := by
    decide
  have ⟨_, _, _, hp, _⟩ := received_iff hr hs
  exact ⟨hr, hs, hp.mpr (List.forall_mem_singleton.mpr (Element.isClean_paragraph (by decide)))⟩

def hailJson : Json :=
  .obj [("places", .obj [("start", .obj [("choices", .obj [
    ("1", .arr [.obj [("Say", .str "Who\rgoes?")]]),
    ("2", .arr [.obj [("Say", .str "I & <you>")]])])])])]

theorem parse_hail : Definition.parse hailText (some "json") = .ok hail := by
  have ht : hailText.toList = _ := Definition.toList_append_eq String.toList_ofList String.toList_ofList
  rw [Definition.parse_of_readDocument (j := hailJson) ht (by cbv)]
  decide +kernel

theorem hail_mangled :
    Definition.parse hailText (some "json") = .ok hail ∧
    ((Player.fresh "traveller" .morning).execute hail .morning (.option 0)).2 = .ok (.single (.say "Who\rgoes?")) ∧
    ∃ speech, ofResponse "" (.single (.say "Who\rgoes?")) = .ok speech ∧ '\r' ∈ speech.text.toList ∧
      Xml.parse speech.text = some (.element "speak" [] [.element "p" [] [.text "Who\ngoes?"]]) := by
  refine ⟨parse_hail, rfl, _, rfl, by decide, ?_⟩
  exact parse_document [.paragraph "Who\rgoes?"]

end Speech
end Gamebook
