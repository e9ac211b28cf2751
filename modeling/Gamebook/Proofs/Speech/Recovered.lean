import Mathlib
import Gamebook.Proofs.Number.Digits
import Gamebook.Proofs.Speech.Pauses
import Gamebook.Proofs.Story.Leaves
import Gamebook.Proofs.Xml.Written

namespace Gamebook
namespace Speech

-- The elements that a document has been made of can be found again.

def millisecondsOf? (text : String) : Option Int :=
  let (n, cs) := Numeral.splitSign text.toList
  let ds := cs.takeWhile (·.isDigit)
  if ds.isEmpty || cs.dropWhile (·.isDigit) ≠ "ms".toList then none
  else some (if n then -(Numeral.ofDigits ds) else Numeral.ofDigits ds)

namespace Element

def toXml : Element → Xml
  | paragraph s => .element "p" [] (if s = "" then [] else [.text s])
  | pause ms    => .element "break" [("time", Scalar.intText ms ++ "ms")] []
  | audio src   => .element "audio" [("src", src)] []

def ofXml? : Xml → Option Element
  | .element "p" [] []                      => some (paragraph "")
  | .element "p" [] [.text s]               => some (paragraph s)
  | .element "break" [("time", text)] []    => (millisecondsOf? text).map pause
  | .element "audio" [("src", src)] []      => some (audio src)
  | _                                       => none

end Element

def ofXml? : Xml → Option (List Element)
  | .element "speak" [] content => content.mapM Element.ofXml?
  | _                           => none

-- What a document says, read without regard to which characters are permitted.
def recover (text : String) : Option (List Element) :=
  (Xml.read text).bind ofXml?

theorem splitSign_toDigits {n : Nat} {rest : List Char} :
    Numeral.splitSign (Nat.toDigits 10 n ++ rest) = (false, Nat.toDigits 10 n ++ rest) := by
  have ⟨c, cs, hc⟩ := List.exists_cons_of_ne_nil (Nat.toDigits_ne_nil (n := n) (b := 10))
  have hd : c.isDigit := Numeral.isDigit_of_mem (hc ▸ List.mem_cons_self)
  rw [hc, List.cons_append, Numeral.splitSign.eq_def]
  split
  case h_1 he =>
    cases he
    cases hd
  case h_2 he =>
    cases he
    cases hd
  case h_3 => rfl

theorem millisecondsOf?_intText (i : Int) : millisecondsOf? (Scalar.intText i ++ "ms") = some i := by
  have hs : Numeral.splitSign (Scalar.intText i ++ "ms").toList =
      (decide (i < 0), Nat.toDigits 10 i.natAbs ++ "ms".toList) := by
    rw [Scalar.intText, String.toList_append, String.toList_ofList]
    split
    case isTrue h  => rw [decide_eq_true h]; rfl
    case isFalse h => rw [decide_eq_false h]; exact splitSign_toDigits
  have hn : ∀ c ∈ Nat.toDigits 10 i.natAbs, c.isDigit := fun _ => Numeral.isDigit_of_mem
  have ⟨ht, hd⟩ := Xml.takeWhile_append_stop (p := (·.isDigit)) hn "ms".toList (by simp)
  have hi : (if decide (i < 0) then -(i.natAbs : Int) else i.natAbs) = i := by
    split_ifs with h
    · have := of_decide_eq_true h
      omega
    · have := of_decide_eq_false (eq_false_of_ne_true h)
      omega
  simp only [millisecondsOf?, hs, ht, hd, Numeral.ofDigits_toDigits, hi]
  exact if_neg (by simp)

theorem Element.ofXml?_toXml (e : Element) : ofXml? e.toXml = some e := by
  cases e with
  | paragraph s =>
    rw [toXml]
    split
    case isTrue h  => exact h ▸ rfl
    case isFalse h => rfl
  | pause ms    =>
    simp only [toXml, ofXml?, millisecondsOf?_intText]
    rfl
  | audio src   => rfl

theorem Element.spells (e : Element) : Xml.Spells e.chars [e.toXml] := by
  cases e with
  | paragraph s =>
    rw [toXml, chars]
    split
    case isTrue h  =>
      rw [h]
      exact .emptyElement (by decide) (List.forall_mem_nil _) List.nodup_nil
    case isFalse h => exact .text (by decide) h
  | pause ms    => exact .emptyElement (by decide) (by simp; decide) (by simp)
  | audio src   => exact .emptyElement (by decide) (by simp; decide) (by simp)

theorem Element.chars_ne_nil (e : Element) : e.chars ≠ [] := by
  cases e with
  | paragraph s =>
    have ⟨_, h⟩ := Xml.ends_element "p" (s.toList.flatMap escapeText)
    rw [chars, h]
    exact nofun
  | pause ms  => exact nofun
  | audio src => exact nofun

theorem read_document (es : List Element) :
    Xml.read (document es) = some (.element "speak" [] (es.map Element.toXml)) := by
  refine Xml.read_of_spells (.element (by decide) (.flatMap Element.spells es) fun h => ?_)
  cases es with
  | nil       => rfl
  | cons e es => exact absurd (List.append_eq_nil_iff.mp h).left e.chars_ne_nil

theorem recover_document (es : List Element) : recover (document es) = some es := by
  rw [recover, read_document, Option.bind_some, ofXml?]
  induction es with
  | nil          => rfl
  | cons e es hi => rw [List.map_cons, List.mapM_cons, Element.ofXml?_toXml, hi]; rfl

theorem document_inj {es es' : List Element} : document es = document es' ↔ es = es' := by
  refine ⟨fun h => ?_, congrArg document⟩
  have h := congrArg recover h
  rwa [recover_document, recover_document, Option.some.injEq] at h

end Speech

-- What a directive is to be spoken as. The digits of a pause after the thousandth of a second are cut
-- off.
def Directive.told (address : String) : Directive → List Speech.Element
  | .say s         => [.paragraph s]
  | .delay f       => [.pause ⌊(f.mul (.ofInt 1000)).magnitude⌋]
  | .play s        => [.audio (address ++ s)]
  | .notUnderstood => [.paragraph Speech.notUnderstood]
  | .bye           => [.paragraph Speech.goodBye]
  | .finished      => []

-- A pause that can be made, and of fewer seconds than a number of 300 digits, or something else.
def Directive.IsBearable (d : Directive) : Prop :=
  ∀ f, d = .delay f → f.isFinite ∧ ¬f.isNegative ∧ f.magnitude < 10 ^ 300

namespace Response

mutual
def told (address : String) : Response → List Speech.Element
  | single d    => d.told address
  | multiple rs => toldAll address rs

def toldAll (address : String) : List Response → List Speech.Element
  | []      => []
  | r :: rs => told address r ++ toldAll address rs
end

variable {address : String} {r : Response} {speech : Speech}

mutual
theorem told_eq : ∀ r : Response, r.told address = r.flatten.flatMap (Directive.told address)
  | .single d    => by simp [told, flatten]
  | .multiple rs => toldAll_eq rs

theorem toldAll_eq : ∀ rs : List Response, toldAll address rs = (flattenAll rs).flatMap (Directive.told address)
  | []      => rfl
  | r :: rs => by rw [toldAll, flattenAll, List.flatMap_append, told_eq r, toldAll_eq rs]
end

end Response

namespace Speech

variable {address : String} {d : Directive} {f : Binary64} {r : Response} {speech : Speech}

theorem milliseconds_eq (hf : f.isFinite) (hn : ¬f.isNegative) (hs : f.magnitude * 1000 < Binary64.ceiling) :
    milliseconds f = .ok ⌊(f.mul (.ofInt 1000)).magnitude⌋ := by
  have hp : (f.mul (.ofInt 1000)).isFinite ∧ ¬(f.mul (.ofInt 1000)).isNegative := by
    cases f with
    | finite n m e =>
      rw [← Binary64.magnitude_thousand, Binary64.ofInt_thousand] at hs
      rw [Binary64.ofInt_thousand]
      exact ⟨Binary64.isFinite_mul.mpr hs, Binary64.not_isNegative_mul hn hf⟩
    | _ => cases hf
  rw [milliseconds]
  generalize f.mul (.ofInt 1000) = g at hp
  cases g with
  | finite n m e =>
    have ht := Binary64.truncate?_eq_floor hp.right hp.left
    exact congrArg (fun i : Option Int => Except.ok (i.getD 0)) ht
  | _            => cases hp.left

theorem elements_eq (h : ∀ f, d = .delay f → f.isFinite ∧ ¬f.isNegative) (hs : d.IsShort) :
    elements address d = .ok (d.told address) := by
  cases d with
  | delay f =>
    rw [elements, milliseconds_eq (h f rfl).left (h f rfl).right (hs f rfl)]
    rfl
  | _ => rfl

theorem ofResponse_eq (h : ∀ d ∈ r.flatten, (∀ f, d = .delay f → f.isFinite ∧ ¬f.isNegative) ∧ d.IsShort) :
    ofResponse address r = .ok ⟨document (r.told address), r.flatten.contains .bye⟩ := by
  rw [ofResponse, Chain.mapM_eq_ok fun d hd => elements_eq (h d hd).left (h d hd).right, r.told_eq]
  rfl

theorem isShort_of_isBearable (h : d.IsBearable) : d.IsShort := by
  intro f hf
  calc f.magnitude * 1000
    _ < 10 ^ 300 * 1000  := mul_lt_mul_of_pos_right (h f hf).right.right (by norm_num only)
    _ = (10 ^ 3) ^ 101   := by rw [← pow_mul, show (1000 : ℚ) = 10 ^ 3 by norm_num only, ← pow_add]
    _ ≤ (2 ^ 10) ^ 101   := pow_le_pow_left₀ (by norm_num only) (by norm_num only) 101
    _ = 2 ^ (1010 : Int) := (pow_mul 2 10 101).symm.trans (zpow_natCast 2 (10 * 101)).symm
    _ ≤ Binary64.ceiling := Binary64.zpow_le_ceiling (by decide)

theorem ofResponse_of_isBearable (h : ∀ d, r.Leaf d → d.IsBearable) (address : String) :
    ofResponse address r = .ok ⟨document (r.told address), r.flatten.contains .bye⟩ := by
  refine ofResponse_eq fun d hd => ?_
  have hd := h d (Response.mem_flatten.mp hd)
  exact ⟨fun f hf => ⟨(hd f hf).left, (hd f hf).right.left⟩, isShort_of_isBearable hd⟩

-- Whatever the texts are, what is told can be found in the document again and nothing else can.
theorem recovers_told (h : ∀ d, r.Leaf d → d.IsBearable) (address : String) :
    ∃ speech, ofResponse address r = .ok speech ∧
      Xml.read speech.text = some (.element "speak" [] ((r.told address).map Element.toXml)) ∧
      recover speech.text = some (r.told address) ∧
      (speech.ended ↔ r.Leaf .bye) ∧
      ∀ (r' : Response) (address' : String) (speech' : Speech), (∀ d, r'.Leaf d → d.IsBearable) →
        ofResponse address' r' = .ok speech' → (speech.text = speech'.text ↔ r.told address = r'.told address') := by
  refine ⟨_, ofResponse_of_isBearable h address, read_document _, recover_document _, ?_, ?_⟩
  · rw [← Response.mem_flatten]
    simp
  · intro r' address' speech' h' hs'
    rw [ofResponse_of_isBearable h' address'] at hs'
    cases hs'
    exact document_inj

-- Texts that look like markup and like what stands for markup, and a pause of one and a half seconds.
def tangled : Response :=
  .multiple [.single (.say "</p><p>&lt;"),
    .multiple [.single (.delay (.finite false (3 * 2 ^ 51) (-52))), .single (.say "")],
    .single (.play "\" />&#13;"), .single .bye, .single .finished]

theorem told_tangled : tangled.told "s/" =
    [.paragraph "</p><p>&lt;", .pause 1500, .paragraph "", .audio "s/\" />&#13;", .paragraph goodBye] := by
  have hm : (Binary64.finite false (3 * 2 ^ 51) (-52)).mul (.ofInt 1000) = .finite false (375 * 2 ^ 44) (-42) := by
    decide
  have hf : ⌊(Binary64.finite false (375 * 2 ^ 44) (-42)).magnitude⌋ = 1500 := by
    norm_num [Binary64.magnitude]
  simp only [tangled, Response.told, Response.toldAll, Directive.told, hm, hf]
  rfl

theorem isBearable_tangled (d : Directive) (h : tangled.Leaf d) : d.IsBearable := by
  intro f hf
  have hd : d ∈ tangled.flatten := Response.mem_flatten.mpr h
  have hf : f = .finite false (3 * 2 ^ 51) (-52) := by
    simpa [hf, tangled, Response.flatten, Response.flattenAll] using hd
  have hm : (Binary64.finite false (3 * 2 ^ 51) (-52)).magnitude < 10 := by
    norm_num [Binary64.magnitude]
  rw [hf]
  exact ⟨rfl, Bool.false_ne_true, hm.trans_le (le_self_pow₀ (by norm_num only) (by decide))⟩

theorem recovers_told_tangled :
    (∀ d, tangled.Leaf d → d.IsBearable) ∧
      ∃ speech, ofResponse "s/" tangled = .ok speech ∧ recover speech.text =
        some [.paragraph "</p><p>&lt;", .pause 1500, .paragraph "", .audio "s/\" />&#13;", .paragraph goodBye] :=
  have ⟨speech, hs, _, hr, _⟩ := recovers_told isBearable_tangled "s/"
  ⟨isBearable_tangled, speech, hs, told_tangled ▸ hr⟩

end Speech
end Gamebook
