import Mathlib
import Gamebook.Proofs.Service.Replies

namespace Gamebook

-- The value that is written in a file, if its bytes are a text and the text is that of a value.
def FileText.json? (content : ByteArray) : Option Json :=
  (decode content).bind fun text => (Json.read text).toOption

-- A player of whom a file tells, and who can go on in an adventure.
structure Player.Usable (g : PlaceGraph) (now : Timestamp) (content : ByteArray) (p : Player) : Prop where
  told   : ∃ j, FileText.json? content = some j ∧ Player.ofJson now j = .good p
  placed : g.contains p.placeId

variable {g : PlaceGraph} {now : Timestamp} {r : String} {content : ByteArray} {j : Json} {p q : Player}
  {s : Store} {ms : List (String × Json)} {source : String} {hint : Option String}

theorem Found.read?_file_eq_ok {stored : Option Json} :
    (file content).read? = .ok stored ↔ ∃ j, FileText.json? content = some j ∧ stored = some j := by
  rw [read?, FileText.json?]
  cases FileText.decode content with
  | none      => simp
  | some text =>
    simp only [Option.bind_some]
    cases Json.read text with
    | ok j    => simp [Except.toOption, eq_comm]
    | error e => cases e <;> simp [Except.toOption]

namespace Player

theorem ofStored_of_good (h : Player.ofJson now j = .good q) (hp : g.contains q.placeId) :
    ofStored g now r (some j) = { q with recordId := r, status := .restored } := by
  have hr : resume? g now r j = some { q with recordId := r } := by
    rw [resume?, h]
    exact if_pos hp
  rw [ofStored, Option.bind_some, hr]
  rfl

theorem ofStored_of_unusable (h : ∀ q, Player.ofJson now j = .good q → ¬g.contains q.placeId) :
    ofStored g now r (some j) = .fresh r now := by
  have hr : resume? g now r j = none := by
    rw [resume?]
    cases ho : Player.ofJson now j with
    | good q => exact if_neg (h q ho)
    | bad _  => rfl
  rw [ofStored, Option.bind_some, hr]
  rfl

end Player

namespace Store

theorem restorePlayer_of_anonymous : s.restorePlayer g now "" true ms = .ok (.fresh "" now) :=
  rfl

theorem restorePlayer_of_file (hr : r ≠ "") (hh : s.held r = .file content) :
    s.restorePlayer g now r true ms = .ok p ↔
      ∃ j, FileText.json? content = some j ∧ p = .ofStored g now r (some j) := by
  rw [restorePlayer, if_pos rfl, if_neg hr, player?_eq, hh]
  constructor
  · intro h
    obtain ⟨_, hs, h⟩ := Chain.bind_eq_ok.mp h
    obtain ⟨j, hj, rfl⟩ := Found.read?_file_eq_ok.mp hs
    cases h
    exact ⟨j, hj, rfl⟩
  · rintro ⟨j, hj, rfl⟩
    rw [Found.read?_file_eq_ok.mpr ⟨j, hj, rfl⟩]
    rfl

-- A new session starts if what the store holds is a value, whatever value that is.
theorem restores_iff (hg : Definition.parse source hint = .ok g) (hh : s.held r = .file content) (now : Timestamp)
    (ms : List (String × Json)) :
    ((∃ p, s.restorePlayer g now r true ms = .ok p) ↔ r = "" ∨ ∃ j, FileText.json? content = some j) ∧
    ∀ p, s.restorePlayer g now r true ms = .ok p →
      p.recordId = r ∧ g.contains p.placeId ∧
      (∀ q : Player, r ≠ "" → q.Usable g now content → p = { q with recordId := r, status := .restored }) ∧
      ((r = "" ∨ ∀ q : Player, ¬q.Usable g now content) → p = .fresh r now) := by
  have hs : g.contains (Player.fresh r now).placeId := (Definition.wellFormed_of_parse hg).start
  by_cases hr : r = ""
  case pos =>
    subst hr
    refine ⟨iff_of_true ⟨_, restorePlayer_of_anonymous⟩ (.inl rfl), fun p hp => ?_⟩
    cases hp
    exact ⟨rfl, hs, fun _ hn => absurd rfl hn, fun _ => rfl⟩
  case neg =>
    simp only [restorePlayer_of_file hr hh, or_iff_right hr]
    refine ⟨⟨fun ⟨_, j, hj, _⟩ => ⟨j, hj⟩, fun ⟨j, hj⟩ => ⟨_, j, hj, rfl⟩⟩, ?_⟩
    rintro _ ⟨j, hj, rfl⟩
    by_cases hu : ∃ q, Player.ofJson now j = .good q ∧ g.contains q.placeId
    case pos =>
      obtain ⟨q, hq, hp⟩ := hu
      rw [Player.ofStored_of_good hq hp]
      refine ⟨rfl, hp, ?_, fun hn => absurd ⟨⟨j, hj, hq⟩, hp⟩ (hn q)⟩
      rintro q' - ⟨⟨j', hj', hq'⟩, -⟩
      cases hj.symm.trans hj'
      cases hq.symm.trans hq'
      rfl
    case neg =>
      rw [Player.ofStored_of_unusable fun q hq hp => hu ⟨q, hq, hp⟩]
      refine ⟨rfl, hs, ?_, fun _ => rfl⟩
      rintro q - ⟨⟨j', hj', hq⟩, hp⟩
      cases hj.symm.trans hj'
      exact absurd ⟨q, hq, hp⟩ hu

-- A store in which there is a file for Alice.
def leaving (content : ByteArray) : Store where
  files  := ⟨.ofList [
    (["data"], .folder),
    (["data", "players"], .folder),
    (["data", "players", "alice.json"], .file content (.given 0))
  ], 0⟩
  folder := .ofText "data"

theorem held_leaving (content : ByteArray) : (leaving content).held "alice" = .file content := by
  rw [held, playerPath, Slug.ofText_alice]
  rfl

theorem json?_encode {text : String} (h : '\r' ∉ text.toList) :
    FileText.json? (FileText.encode text) = (Json.read text).toOption := by
  rw [FileText.json?, FileText.decode_encode h]
  rfl

-- A list is no player, and the first of the characters that make one up is no value.

theorem restores_listed :
    Definition.parse (Definition.dump .crossing).render (some "json") = .ok .crossing ∧
    (leaving (FileText.encode "[]")).restorePlayer .crossing .morning "alice" true [] =
      .ok (.fresh "alice" .morning) := by
  have hg := Definition.parse_render Definition.format_json PlaceGraph.wellFormed_crossing
  have hj : FileText.json? (FileText.encode "[]") = some (.arr []) := by
    rw [json?_encode (by decide), show Json.read "[]" = .ok (.arr []) by cbv]
    rfl
  obtain ⟨hr, hp⟩ := restores_iff hg (held_leaving (FileText.encode "[]")) .morning []
  obtain ⟨p, ho⟩ := hr.mpr (.inr ⟨_, hj⟩)
  obtain ⟨_, _, _, hn⟩ := hp p ho
  rw [hn (.inr fun q hq => ?_)] at ho
  · exact ⟨hg, ho⟩
  · obtain ⟨⟨_, hj', hq⟩, _⟩ := hq
    cases hj.symm.trans hj'
    cases hq

theorem cutOff_unrestored :
    Definition.parse (Definition.dump .crossing).render (some "json") = .ok .crossing ∧
    (leaving (FileText.encode "\x7b")).held "alice" = .file (FileText.encode "\x7b") ∧
    (leaving (FileText.encode "\x7b")).restorePlayer .crossing .morning "alice" true [] = .error .notJson := by
  refine ⟨Definition.parse_render Definition.format_json PlaceGraph.wellFormed_crossing, held_leaving _, ?_⟩
  have hj : Json.read "\x7b" = .error (.malformed .propertyName 1) := by
    cbv
  rw [restorePlayer, if_pos rfl, if_neg (by decide), player?_eq, held_leaving, Found.read?,
    FileText.decode_encode (by decide)]
  simp only [hj]
  rfl

end Store

namespace Service

variable {s : Service} {settings : Settings} {request : Skill.Request} {plan : Skill.Plan}

-- Whoever begins a session is turned away as long as the file stays, and it does stay.
theorem answer_of_damaged (ha : s.adventure.2 = .ok g) (hc : s.store.settings = .ok settings)
    (hp : request.occasion.plan? = some plan) (hn : request.isNew) (hr : request.recordId ≠ "")
    (hh : s.store.held request.recordId = .file content) (hj : FileText.json? content = none) :
    (∃ e, (Voice.answer s now request).result = .error (.store e)) ∧
    (Voice.answer s now request).service.store = s.store := by
  have ho : ∃ e, s.store.restorePlayer g now request.recordId request.isNew request.attributes = .error e := by
    cases ho : s.store.restorePlayer g now request.recordId request.isNew request.attributes with
    | error e => exact ⟨e, rfl⟩
    | ok p    =>
      rw [hn, Store.restorePlayer_of_file hr hh, hj] at ho
      obtain ⟨_, ⟨⟩, _⟩ := ho
  obtain ⟨e, ho⟩ := ho
  rw [answer_of_unrestored ha hc hp ho]
  exact ⟨⟨e, rfl⟩, store_adventure⟩

end Service
end Gamebook
