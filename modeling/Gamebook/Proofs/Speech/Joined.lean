import Mathlib
import Gamebook.Console.Screen
import Gamebook.Proofs.Speech.Pauses
import Gamebook.Proofs.Story.Leaves

namespace Gamebook

-- What stands at the terminal, as a front end.
def Screen.renderer (typing : Bool) : Handler (StateM Screen) where
  say text      := modify (·.say typing text)
  delay f       := modify fun s => { s with waits := s.waits ++ [.delay f] }
  play id       := modify (·.print ("(" ++ id ++ ")\n"))
  notUnderstood := modify (·.say typing Speech.notUnderstood)
  bye           := modify fun s => { s with quit := true }
  finished      := pure ()

theorem Screen.run_renderer {typing : Bool} {s : Screen} {r : Response} :
    ((renderer typing).dispatch r).run s = ((), s.display typing r) := by
  apply Handler.run_dispatch
  intro d s
  cases d <;> rfl

namespace Speech

-- A document that is being made, and whether it is known to be the last one.
structure Draft where
  elements : List Element
  ended    : Bool

def Draft.add (t : Draft) (e : Element) : Draft :=
  { t with elements := t.elements ++ [e] }

def Draft.speech (t : Draft) : Speech :=
  ⟨document t.elements, t.ended⟩

-- The voice of the skill, as a front end.
def builder (address : String) : Handler (StateT Draft (Except Unmeasured)) where
  say text      := modify (·.add (.paragraph text))
  delay f       := do
    let ms ← milliseconds f
    modify (·.add (.pause ms))
  play id       := modify (·.add (.audio (address ++ id)))
  notUnderstood := modify (·.add (.paragraph Speech.notUnderstood))
  bye           := modify fun t => { t.add (.paragraph goodBye) with ended := true }
  finished      := pure ()

-- What stands between the tags of a document.
def body (s : Speech) : List Char :=
  (s.text.toList.drop "<speak>".length).take (s.text.length - "<speak></speak>".length)

-- One document with all that is in some others.
def joined (ss : List Speech) : Speech :=
  ⟨.ofList (element "speak" (ss.flatMap body)), ss.any ended⟩

-- What some directives are spoken as.
def ofDirectives (address : String) (ds : List Directive) : Except Unmeasured Speech := do
  return ⟨document (← ds.mapM (elements address)).flatten, ds.contains .bye⟩

variable {address : String} {d : Directive} {ds ds' : List Directive} {s : Speech} {ss : List Speech} {t : Draft}
  {cs : List Char} {b : Bool} {f : Binary64}

theorem run_handle : ((builder address).handle d).run t =
    (elements address d).map fun es => ((), ⟨t.elements ++ es, d == .bye || t.ended⟩) := by
  cases d with
  | delay f =>
    rw [elements]
    cases hm : milliseconds f with
    | ok ms   => simp [builder, Handler.handle, hm]; rfl
    | error e => simp [builder, Handler.handle, hm]; rfl
  | finished => rw [elements, Except.map, List.append_nil]; rfl
  | _ => rfl

-- A document that is made step by step has what is in the directives.
theorem run_dispatch {r : Response} : ((builder address).dispatch r).run t =
    (r.flatten.mapM (elements address)).map fun es =>
      ((), ⟨t.elements ++ es.flatten, r.flatten.contains .bye || t.ended⟩) := by
  rw [Handler.dispatch]
  induction r.flatten generalizing t with
  | nil          => exact congrArg (fun es => Except.ok ((), Draft.mk es t.ended)) (List.append_nil _).symm
  | cons d ds hi =>
    rw [List.forM_eq_forM] at hi
    rw [List.forM_eq_forM, List.forM_cons, StateT.run_bind, run_handle, List.mapM_cons]
    cases elements address d with
    | error e => rfl
    | ok es   =>
      simp only [Except.map, Chain.ok_bind, hi]
      cases ds.mapM (elements address) with
      | error e => rfl
      | ok ess  =>
        have he : (d :: ds).contains .bye = (d == .bye || ds.contains .bye) := by
          rw [List.contains_cons, BEq.comm]
        simp only [Chain.ok_bind, he]
        rw [Bool.or_left_comm, ← Bool.or_assoc, List.append_assoc]
        rfl

theorem element_speak (h : cs ≠ []) : element "speak" cs = "<speak>".toList ++ cs ++ "</speak>".toList := by
  rw [element, if_neg (by simpa using h)]
  simp

theorem element_speak_nil : element "speak" [] = "<speak />".toList := by
  decide

theorem body_element : body ⟨.ofList (element "speak" cs), b⟩ = cs := by
  simp only [body, String.toList_ofList, String.length_ofList]
  by_cases h : cs = []
  case pos =>
    rw [h, element_speak_nil]
    decide
  case neg =>
    have hl : ("<speak>".toList ++ cs ++ "</speak>".toList).length - "<speak></speak>".length = cs.length := by
      have ho : "<speak>".toList.length = 7 := by decide
      have hc : "</speak>".toList.length = 8 := by decide
      have hb : "<speak></speak>".length = 15 := by decide
      rw [List.length_append, List.length_append, ho, hc, hb]
      omega
    rw [element_speak h, hl, List.append_assoc, ← String.length_toList, List.drop_left, List.take_left]

theorem body_joined : (joined ss).body = ss.flatMap body :=
  body_element

theorem joined_cons : joined (s :: ss) = joined [s, joined ss] := by
  simp [joined, body_element]

theorem ofDirectives_append : ofDirectives address (ds ++ ds') = (do
    let s ← ofDirectives address ds
    let s' ← ofDirectives address ds'
    return joined [s, s']) := by
  simp only [ofDirectives, List.mapM_append]
  cases ds.mapM (elements address) with
  | error e => rfl
  | ok ess  =>
    cases ds'.mapM (elements address) with
    | error e  => rfl
    | ok ess' => simp [joined, document, body_element]

theorem ofResponse_eq_ofDirectives {r : Response} : ofResponse address r = ofDirectives address r.flatten :=
  rfl

-- The body of a document is that of its parts, and it cannot be made if one of these cannot.
theorem ofResponse_collapse {rs : List Response} :
    ofResponse address (.collapse rs) = (rs.mapM (ofResponse address)).map joined := by
  rw [ofResponse_eq_ofDirectives, Response.flatten_collapse]
  induction rs with
  | nil => rfl
  | cons r rs hi =>
    rw [List.flatMap_cons, ofDirectives_append, hi, List.mapM_cons, ofResponse_eq_ofDirectives]
    cases ofDirectives address r.flatten with
    | error e => rfl
    | ok s    =>
      cases rs.mapM (ofResponse address) with
      | error e => rfl
      | ok ss   => exact congrArg Except.ok joined_cons.symm

theorem ofResponse_eq_builder {r : Response} :
    ofResponse address r = (((builder address).dispatch r).run ⟨[], false⟩).map (·.2.speech) := by
  rw [run_dispatch, ofResponse]
  cases r.flatten.mapM (elements address) with
  | error e => rfl
  | ok ess  => simp [Except.map, Draft.speech]

-- What is not finite has no milliseconds.
theorem milliseconds_iff : (∃ ms, milliseconds f = .ok ms) ↔ f.isFinite ∧ f.magnitude * 1000 < Binary64.ceiling := by
  cases f with
  | finite n m e =>
    rw [exists_milliseconds rfl]
    exact (and_iff_right rfl).symm
  | _ => simp [milliseconds, Binary64.ofInt_thousand, Binary64.isFinite, Binary64.mul]

theorem exists_ofResponse {r : Response} : (∃ speech, ofResponse address r = .ok speech) ↔
    ∀ f, r.Leaf (.delay f) → f.isFinite ∧ f.magnitude * 1000 < Binary64.ceiling := by
  simp only [ofResponse_eq_ok, ← milliseconds_iff, ← Response.mem_flatten]
  exact ⟨fun h f hf => h _ hf f rfl, fun h d hd f he => h f (he ▸ hd)⟩

theorem text_eq_body {r : Response} {speech : Speech} (h : ofResponse address r = .ok speech) :
    speech.text = .ofList (element "speak" speech.body) := by
  obtain ⟨ess, _, h⟩ := Chain.bind_eq_ok.mp h
  cases h
  rw [document, body_element]

end Speech

namespace Response

-- Responses that no front end can tell apart.
structure Alike (r r' : Response) : Prop where
  handled : ∀ (m : Type → Type) [Monad m] (h : Handler m), h.dispatch r = h.dispatch r'
  spoken  : ∀ address, Speech.ofResponse address r = Speech.ofResponse address r'
  shown   : ∀ (s : Screen) typing, s.display typing r = s.display typing r'

variable {r r' : Response}

theorem alike_of_flatten (h : r.flatten = r'.flatten) : r.Alike r' where
  handled m _ h'   := by rw [Handler.dispatch, h, Handler.dispatch]
  spoken address   := by rw [Speech.ofResponse, h, Speech.ofResponse]
  shown s typing   := by rw [Screen.display, h, Screen.display]

theorem flatten_of_alike (h : r.Alike r') : r.flatten = r'.flatten := by
  rw [← calls_eq, ← calls_eq, calls, h.handled, calls]

-- The leaves of responses in their order are all that front ends take notice of.
theorem alike_iff (r r' : Response) (rs : List Response) :
    ((collapse rs).flatten = rs.flatMap flatten ∧
      (collapse (r.flatten.map single)).flatten = r.flatten ∧
      (∀ d, d ∈ r.flatten ↔ r.Leaf d) ∧ ∀ qs, multiple qs ∉ r.flatten.map single) ∧
    (r.calls = r.flatten ∧ ∀ (m : Type → Type) [Monad m] [LawfulMonad m] (h : Handler m),
      (∀ d, h.dispatch (.single d) = h.handle d) ∧ h.dispatch (.multiple rs) = rs.forM h.dispatch) ∧
    (r.flatten = r'.flatten ↔ r.Alike r') ∧
    (∀ (s : Screen) typing, s.display typing r = (((Screen.renderer typing).dispatch r).run s).2) ∧
    ∀ address,
      Speech.ofResponse address r = (((Speech.builder address).dispatch r).run ⟨[], false⟩).map (·.2.speech) ∧
      ((∃ speech, Speech.ofResponse address r = .ok speech) ↔
        ∀ f, r.Leaf (.delay f) → f.isFinite ∧ f.magnitude * 1000 < Binary64.ceiling) ∧
      (∀ speech, Speech.ofResponse address r = .ok speech →
        speech.text = .ofList (Speech.element "speak" speech.body)) ∧
      (Speech.ofResponse address (collapse rs)).map (fun s => (s.body, s.ended)) =
        (rs.mapM (Speech.ofResponse address)).map fun ss => (ss.flatMap Speech.body, ss.any Speech.ended) := by
  refine ⟨⟨flatten_collapse rs, flatten_ofDirectives r.flatten, fun d => mem_flatten, fun qs => by simp⟩,
    ⟨r.calls_eq, fun m _ _ h => ⟨fun d => Handler.dispatch_single, Handler.dispatch_multiple⟩⟩,
    ⟨alike_of_flatten, flatten_of_alike⟩, fun s typing => by rw [Screen.run_renderer],
    fun address => ⟨Speech.ofResponse_eq_builder, Speech.exists_ofResponse, fun speech => Speech.text_eq_body, ?_⟩⟩
  rw [Speech.ofResponse_collapse]
  cases rs.mapM (Speech.ofResponse address) with
  | error e => rfl
  | ok ss   => exact congrArg (fun b => Except.ok (b, ss.any Speech.ended)) Speech.body_joined

end Response
end Gamebook
