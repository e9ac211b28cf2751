import Mathlib
import Gamebook.Proofs.Json.Textual
import Gamebook.Proofs.Store.Held
import Gamebook.Proofs.Time.Wire
import Gamebook.Skill.Resume

namespace Gamebook

theorem Status.ofName?_name (s : Status) : ofName? s.name = some s := by
  cases s <;> rfl

namespace Player

variable {g : PlaceGraph} {now : Timestamp} {p : Player} {recordId : String}

-- A player is read as they were written, whenever that is.
theorem ofJson_toJson (now : Timestamp) (p : Player) : Player.ofJson now p.toJson = .good p := by
  have hs := Timestamp.ofText?_wire p.started
  have hn := Status.ofName?_name p.status
  have he : Form.nullable Form.time (.ofOption (fun t => .str t.wire) p.ended) = .good p.ended := by
    cases p.ended with
    | none   => rfl
    | some t =>
      rw [Json.ofOption, Form.nullable, Form.time, Timestamp.ofText?_wire]
      · rfl
      · exact nofun
  simp only [ofJson, toJson, Form.memberOr, Json.get?, List.find?, String.reduceEq, decide_false, decide_true,
    Option.map_some, Form.text, Form.word, Form.int, Form.time, hs, hn, he]
  rfl

-- The counters have room in what can be written.
def IsCountable (p : Player) : Prop :=
  p.commandsIssued.natAbs < 10 ^ Numeral.digitLimit ∧ p.attempts.natAbs < 10 ^ Numeral.digitLimit

theorem isCountable_fresh : (fresh recordId now).IsCountable :=
  ⟨Nat.pow_pos (by decide), Nat.pow_pos (by decide)⟩

theorem isWritable_toJson_iff : p.toJson.IsWritable ↔ p.IsCountable := by
  have he : (Json.ofOption (fun t => .str t.wire) p.ended).anyScalar Json.isOversize = false := by
    cases p.ended <;> rfl
  simp [Json.IsWritable, toJson, Json.anyScalar, Json.anyMember, he, Json.isOversize, IsCountable]

theorem isPortable_toJson (h : p.IsCountable) : p.toJson.IsPortable := by
  refine ⟨isWritable_toJson_iff.mpr h, ?_⟩
  have he : (Json.ofOption (fun t => .str t.wire) p.ended).anyScalar Json.isUnbounded = false := by
    cases p.ended <;> rfl
  simp [toJson, Json.anyScalar, Json.anyMember, he, Json.isUnbounded]

theorem recoverable_toJson (h : p.IsCountable) : p.toJson.Recoverable := by
  have hi {i : Int} (h : i.natAbs < 10 ^ Numeral.digitLimit) : (Json.int i).Recoverable :=
    .int (by simpa [Json.isOversize] using h)
  have he : (Json.ofOption (fun t => .str t.wire) p.ended).Recoverable := by
    cases p.ended
    case none   => exact .null
    case some t => exact .str t.wire
  refine .obj (fun m hm => ?_) (by simp)
  simp only [List.mem_cons, List.not_mem_nil, or_false] at hm
  rcases hm with rfl | rfl | rfl | rfl | rfl | rfl | rfl
  · exact .str _
  · exact .str _
  · exact .str _
  · exact hi h.left
  · exact hi h.right
  · exact .str _
  · exact he

end Player

theorem Found.read?_render {j : Json} (h : j.Recoverable) : (Found.file (FileText.encode j.render)).read? = .ok (some j) := by
  rw [Found.read?, FileText.decode_encode j.no_return]
  simp only [h.read_render]

theorem Found.read?_player {p : Player} (h : p.IsCountable) :
    (Found.file (FileText.encode p.toJson.render)).read? = .ok (some p.toJson) :=
  read?_render (p.recoverable_toJson h)

-- Whoever asks for a player who has been saved is the player.
theorem Player.resume?_toJson_of {g : PlaceGraph} {p : Player} (now : Timestamp) (recordId : String)
    (h : g.contains p.placeId) : resume? g now recordId p.toJson = some { p with recordId } := by
  rw [resume?, ofJson_toJson]
  exact if_pos h

theorem Player.resume?_toJson {g : PlaceGraph} {p : Player} (now : Timestamp) (h : g.contains p.placeId) :
    resume? g now p.recordId p.toJson = some p :=
  resume?_toJson_of now p.recordId h

namespace Store

variable {s : Store} {g : PlaceGraph} {now : Timestamp} {recordId : String} {ms : List (String × Json)} {p : Player}

-- What the store holds of a player who has been stored.
def Holds (s : Store) (p : Player) : Prop :=
  s.held p.recordId = .file (FileText.encode p.toJson.render)

theorem restorePlayer_of_nothing (hr : recordId ≠ "") (h : s.held recordId = .nothing) :
    s.restorePlayer g now recordId true ms = .ok (.fresh recordId now) := by
  rw [restorePlayer, if_pos rfl, if_neg hr, player?_eq, h]
  rfl

theorem restorePlayer_of_player? (hr : recordId ≠ "") (hp : g.contains p.placeId)
    (h : s.player? recordId = .ok (some p.toJson)) :
    s.restorePlayer g now recordId true ms = .ok { p.restored with recordId } := by
  rw [restorePlayer, if_pos rfl, if_neg hr, h]
  simp only [Chain.ok_bind, Player.ofStored, Option.bind_some, Player.resume?_toJson_of now recordId hp]
  rfl

theorem restorePlayer_of_holds (hr : p.recordId ≠ "") (hp : g.contains p.placeId) (hc : p.IsCountable)
    (h : s.Holds p) : s.restorePlayer g now p.recordId true ms = .ok p.restored := by
  have hh : s.player? p.recordId = .ok (some p.toJson) := by
    rw [player?_eq, h, Found.read?_player hc]
  exact restorePlayer_of_player? hr hp hh

theorem restorePlayer_of_attributes (hp : g.contains p.placeId) (h : Json.get? ms "player" = some p.toJson) :
    s.restorePlayer g now p.recordId false ms = .ok p := by
  rw [restorePlayer, if_neg Bool.false_ne_true, Player.ofAttributes, h, Option.bind_some,
    Player.resume?_toJson now hp]
  rfl

theorem keepPlayer_eq_ok (hs : s.IsSetUp) (hr : p.recordId ≠ "") (hc : p.IsCountable)
    (h : s.held p.recordId ≠ .refused) (h' : s.held p.recordId ≠ .folder) :
    ∃ store, s.keepPlayer p = .ok store ∧ store.Holds p := by
  have hk := held_savePlayer (r := p.recordId) (j := p.toJson) hs
  rw [Found.save.eq_def, if_pos (Player.isWritable_toJson_iff.mpr hc)] at hk
  rw [keepPlayer, if_neg hr]
  split at hk
  case h_1 he => exact absurd he h
  case h_2 he => exact absurd he h'
  case h_3 =>
    cases hw : s.savePlayer p.recordId p.toJson with
    | ok store =>
      rw [hw] at hk
      exact ⟨store, rfl, Except.ok.inj hk⟩
    | error e =>
      rw [hw] at hk
      cases hk

theorem keepPlayer_of_refused (hs : s.IsSetUp) (hr : p.recordId ≠ "") (h : s.held p.recordId = .refused) :
    ∃ e, s.keepPlayer p = .error e := by
  have hk := held_savePlayer (r := p.recordId) (j := p.toJson) hs
  rw [keepPlayer, if_neg hr]
  cases hw : s.savePlayer p.recordId p.toJson with
  | error e  => exact ⟨e, rfl⟩
  | ok store =>
    rw [hw, h, Found.save.eq_def] at hk
    split at hk <;> cases hk

-- Stores that hold the same of a player can be told apart by neither reading nor storing that player.
section

variable {s' : Store}

theorem player?_congr (h : s.held recordId = s'.held recordId) : s.player? recordId = s'.player? recordId := by
  rw [player?_eq, player?_eq, h]

theorem restorePlayer_congr {new : Bool} (h : recordId ≠ "" → s.player? recordId = s'.player? recordId) :
    s.restorePlayer g now recordId new ms = s'.restorePlayer g now recordId new ms := by
  rw [restorePlayer, restorePlayer]
  split
  case isFalse => rfl
  case isTrue =>
    split
    case isTrue     => rfl
    case isFalse hr => rw [h hr]

theorem keepPlayer_congr (hs : s.IsSetUp) (hs' : s'.IsSetUp)
    (h : p.recordId ≠ "" → s.held p.recordId = s'.held p.recordId) :
    (∃ e, s.keepPlayer p = .error e ∧ s'.keepPlayer p = .error e) ∨
    ∃ a b, s.keepPlayer p = .ok a ∧ s'.keepPlayer p = .ok b ∧
      (p.recordId ≠ "" → a.held p.recordId = b.held p.recordId) := by
  rw [keepPlayer, keepPlayer]
  split
  case isTrue hr => exact .inr ⟨_, _, rfl, rfl, fun hn => absurd hr hn⟩
  case isFalse hr =>
    have hm : (s.savePlayer p.recordId p.toJson).map (·.held p.recordId) =
        (s'.savePlayer p.recordId p.toJson).map (·.held p.recordId) := by
      rw [held_savePlayer hs, held_savePlayer hs', h hr]
    rcases Chain.cases_of_map_eq hm with he | ⟨a, b, ha, hb, hab⟩
    · exact .inl he
    · exact .inr ⟨a, b, ha, hb, fun _ => hab⟩

end

end Store
end Gamebook
