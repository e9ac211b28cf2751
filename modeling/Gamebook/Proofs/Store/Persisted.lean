import Mathlib
import Gamebook.Proofs.Definition.JsonRoundTrip
import Gamebook.Proofs.Json.Spelled
import Gamebook.Proofs.Store.Sharing

namespace Gamebook

namespace Player

variable {p : Player} {g : PlaceGraph} {text : String}

theorem nodup_toJson {ms : List (String × Json)} (h : p.toJson = .obj ms) : (ms.map Prod.fst).Nodup := by
  cases h
  simp

theorem exists_spelled (hc : p.IsCountable) {ms : List (String × Json)} (h : p.toJson = .obj ms) :
    ∀ m ∈ ms, ∃ cs, Json.SpellsScalar m.2 cs := by
  have hs (s : String) : ∃ cs, Json.SpellsScalar (.str s) cs :=
    ⟨_, .str (.escaped _)⟩
  have hi {i : Int} (h : i.natAbs < 10 ^ Numeral.digitLimit) : ∃ cs, Json.SpellsScalar (.int i) cs :=
    ⟨_, .int (by simpa [Json.isOversize] using h)⟩
  have he : ∃ cs, Json.SpellsScalar (.ofOption (fun t => .str t.wire) p.ended) cs := by
    cases p.ended
    case none   => exact ⟨_, .null⟩
    case some t => exact hs t.wire
  cases h
  simp only [List.forall_mem_cons]
  exact ⟨hs _, hs _, hs _, hi hc.left, hi hc.right, hs _, he, List.forall_mem_nil _⟩

-- Whichever way a player has been written, the player is read.
theorem read_of_spells (h : Json.SpellsRecord p.toJson text) : Json.read text = .ok p.toJson :=
  Json.read_of_spells h fun _ => nodup_toJson

end Player

namespace Store

variable {s : Store} {p : Player} {g : PlaceGraph}

theorem keeps_iff (hr : p.recordId ≠ "") (hp : g.contains p.placeId) (hc : p.IsCountable) (hs : s.IsTidy) :
    (∃ s', s.keepPlayer p = .ok s' ∧ ∀ now ms, s'.restorePlayer g now p.recordId true ms = .ok p.restored) ↔
      HasRoomFor p.recordId := by
  have hf : s.held p.recordId = .refused ↔ ¬HasRoomFor p.recordId := held_eq_refused hs.setUp
  constructor
  · rintro ⟨s', hk, _⟩
    refine not_not.mp fun hn => ?_
    obtain ⟨_, he⟩ := keepPlayer_of_refused hs.setUp hr (hf.mpr hn)
    cases hk.symm.trans he
  · intro h
    obtain ⟨s', hk, hh⟩ := keepPlayer_eq_ok hs.setUp hr hc (mt hf.mp (not_not.mpr h)) (hs.no_folder _)
    exact ⟨s', hk, fun _ _ => restorePlayer_of_holds hr hp hc hh⟩

-- Nothing is lost of a player on the way through the attributes of a session, through the store if
-- there is room for the player, and through data and texts.
theorem persists_iff (hr : p.recordId ≠ "") (hp : g.contains p.placeId) (hc : p.IsCountable) :
    (∀ (s : Store) now, s.restorePlayer g now p.recordId false [("player", p.toJson)] = .ok p) ∧
    (∀ s : Store, s.IsTidy → ((∃ s', s.keepPlayer p = .ok s' ∧
      ∀ now ms, s'.restorePlayer g now p.recordId true ms = .ok { p with status := .restored }) ↔
        HasRoomFor p.recordId)) ∧
    (∀ now, Player.ofJson now p.toJson = .good p) ∧
    (∀ text, Json.SpellsRecord p.toJson text → Json.read text = .ok p.toJson) ∧
    Json.SpellsRecord p.toJson p.toJson.render ∧ Json.SpellsRecord p.toJson p.toJson.compact := by
  have hm := Player.exists_spelled hc rfl
  refine ⟨fun s now => restorePlayer_of_attributes hp rfl, fun s hs => keeps_iff hr hp hc hs,
    fun now => p.ofJson_toJson now, fun _ => Player.read_of_spells, ?_, ?_⟩
  · exact Json.spells_render hm
  · exact Json.spells_compact hm

-- A player with times of both kinds, one of them on a leap day and with microseconds.
def wayfarer : Player where
  recordId       := "alice"
  placeId        := "bank"
  status         := .inProgress
  commandsIssued := 7
  attempts       := -2
  started        := ⟨⟨2024, 2, 29, by decide⟩, ⟨23, 59, 59, 500, by decide⟩, some ⟨330, by decide⟩⟩
  ended          := some ⟨⟨1, 1, 1, by decide⟩, .midnight, none⟩

theorem isCountable_wayfarer : wayfarer.IsCountable := by
  have hl : 10 ^ 1 ≤ 10 ^ Numeral.digitLimit := Nat.pow_le_pow_right (by decide) (by decide)
  exact ⟨Nat.lt_of_lt_of_le (by decide) hl, Nat.lt_of_lt_of_le (by decide) hl⟩

theorem persists_wayfarer :
    wayfarer.recordId ≠ "" ∧ PlaceGraph.crossing.contains wayfarer.placeId ∧ wayfarer.IsCountable ∧
    bare.restorePlayer .crossing .morning "alice" false [("player", wayfarer.toJson)] = .ok wayfarer ∧
    (∃ s, bare.keepPlayer wayfarer = .ok s ∧
      s.restorePlayer .crossing .morning "alice" true [] = .ok { wayfarer with status := .restored }) ∧
    Json.read wayfarer.toJson.compact = .ok wayfarer.toJson := by
  have hr : wayfarer.recordId ≠ "" := by decide
  have hp : PlaceGraph.crossing.contains wayfarer.placeId := by decide
  have hc : wayfarer.IsCountable := isCountable_wayfarer
  obtain ⟨ha, hk, _, ht, _, hs⟩ := persists_iff hr hp hc
  obtain ⟨s, hk, ho⟩ := (hk bare (.of_empty isSetUp_bare playerFiles_bare)).mpr hasRoomFor_alice
  exact ⟨hr, hp, hc, ha bare .morning, ⟨s, hk, ho .morning []⟩, ht _ hs⟩

-- A player whose record id makes the name of a file too long.
def wordy : Player :=
  .fresh (.ofList (.replicate 251 'a')) .morning

theorem wordy_unkept :
    Definition.parse (Definition.dump .crossing).render (some "json") = .ok .crossing ∧
    wordy.recordId ≠ "" ∧ PlaceGraph.crossing.contains wordy.placeId ∧ wordy.IsCountable ∧ bare.IsTidy ∧
    ∃ e, bare.keepPlayer wordy = .error e := by
  have ⟨hn, hr⟩ : wordy.recordId ≠ "" ∧ ¬HasRoomFor wordy.recordId := not_hasRoomFor_replicate (by decide)
  refine ⟨Definition.parse_render Definition.format_json PlaceGraph.wellFormed_crossing, hn, by decide,
    Player.isCountable_fresh, .of_empty isSetUp_bare playerFiles_bare, ?_⟩
  exact keepPlayer_of_refused isSetUp_bare hn ((held_eq_refused isSetUp_bare).mpr hr)

end Store
end Gamebook
