import Mathlib
import Gamebook.Proofs.Story.Run
import Gamebook.Skill.Resume
import Gamebook.Skill.Turn

namespace Gamebook

variable {g : PlaceGraph} {now : Timestamp} {p q : Player} {c : Command} {w : Walk} {recordId : String}

namespace Player

theorem recordId_commit : (p.commit now c w).recordId = p.recordId := by
  cases c <;> rfl

theorem recordId_execute : (p.execute g now c).1.recordId = p.recordId := by
  rw [execute]
  split
  case h_1 => exact recordId_commit
  case h_2 => rfl

theorem recordId_attempt : (p.attempt g now c).1.recordId = p.recordId := by
  have h : (p.execute g now c).1.recordId = p.recordId := recordId_execute
  rw [attempt]
  split <;> simp_all

theorem recordId_resume? {saved : Json} (h : resume? g now recordId saved = some p) : p.recordId = recordId := by
  have ⟨q, _, h⟩ := Option.bind_eq_some_iff.mp h
  split at h
  case isTrue =>
    cases h
    rfl
  case isFalse => cases h

theorem recordId_ofStored {stored : Option Json} : (ofStored g now recordId stored).recordId = recordId := by
  rw [ofStored]
  cases h : stored.bind (resume? g now recordId) with
  | none   => rfl
  | some p =>
    have ⟨_, _, h⟩ := Option.bind_eq_some_iff.mp h
    exact (recordId_resume? h : p.recordId = recordId)

theorem recordId_ofAttributes {ms : List (String × Json)} :
    (ofAttributes g now recordId ms).recordId = recordId := by
  rw [ofAttributes]
  cases h : (Json.get? ms "player").bind (resume? g now recordId) with
  | none   => rfl
  | some p =>
    have ⟨_, _, h⟩ := Option.bind_eq_some_iff.mp h
    exact recordId_resume? h

-- Players who differ in their status at most. It is of no importance to what a command does.
def Like (p q : Player) : Prop :=
  p = { q with status := p.status }

theorem Like.refl (p : Player) : p.Like p :=
  rfl

theorem Like.symm (h : p.Like q) : q.Like p := by
  rw [Like] at h ⊢
  rw [h]

theorem Like.trans {o : Player} (h : p.Like q) (h' : q.Like o) : p.Like o := by
  rw [Like] at h' ⊢
  rw [h, h']

theorem Like.recordId_eq (h : p.Like q) : p.recordId = q.recordId :=
  h ▸ rfl

theorem Like.placeId_eq (h : p.Like q) : p.placeId = q.placeId :=
  h ▸ rfl

theorem Like.restored (h : p.Like q) : p.restored.Like q :=
  h ▸ rfl

theorem execute_withStatus (st : Status) : Player.execute g now { p with status := st } c =
    ({ (p.execute g now c).1 with status := st }, (p.execute g now c).2) := by
  have hc : Player.counted { p with status := st } = { p.counted with status := st } := rfl
  rw [execute, execute, hc]
  simp only []
  cases Walk.ofCommand g p.counted.placeId c with
  | error m => rfl
  | ok w    => cases c <;> rfl

theorem attempt_like_execute : (p.attempt g now c).1.Like (p.execute g now c).1 := by
  cases h : (p.execute g now c).2 with
  | ok r    => exact attempt_of_ok h ▸ rfl
  | error m => exact attempt_of_error h ▸ rfl

theorem attempt_like (h : p.Like q) :
    (p.attempt g now c).1.Like (q.execute g now c).1 ∧ (p.attempt g now c).2 = (q.attempt g now c).2 := by
  have hs : p.execute g now c = ({ (q.execute g now c).1 with status := p.status }, (q.execute g now c).2) :=
    h ▸ execute_withStatus p.status
  refine ⟨attempt_like_execute.trans (hs ▸ rfl), ?_⟩
  cases he : (q.execute g now c).2 with
  | ok r    => rw [attempt_of_ok he, attempt_of_ok (by rw [hs, he])]
  | error m => rw [attempt_of_error he, attempt_of_error (by rw [hs, he])]

end Player

theorem Store.recordId_restorePlayer {s : Store} {new : Bool} {ms : List (String × Json)}
    (h : s.restorePlayer g now recordId new ms = .ok p) : p.recordId = recordId := by
  rw [restorePlayer] at h
  split at h
  case isTrue =>
    split at h
    case isTrue =>
      cases h
      rfl
    case isFalse =>
      have ⟨stored, _, h⟩ := Chain.bind_eq_ok.mp h
      cases h
      exact Player.recordId_ofStored
  case isFalse =>
    cases h
    exact Player.recordId_ofAttributes

namespace Skill

-- The moves that a turn stands for, of which there is one at most.
def Plan.moves (plan : Plan) (now : Timestamp) : List Move :=
  (plan.command.map (⟨now, ·⟩)).toList

namespace Turn

variable {plan : Plan}

-- A turn carries out its command once, and the reprompt leaves no trace in the player.
theorem take_like (h : p.Like q) :
    (take g now p plan).player.Like (q.follow g (plan.moves now)) ∧
      (take g now p plan).response = (take g now q plan).response ∧
      (take g now p plan).reprompt = (take g now q plan).reprompt := by
  rw [take, take, Plan.moves]
  cases plan.command with
  | none   => exact ⟨h, rfl, by simp only [(Player.attempt_like h).right]⟩
  | some c =>
    have ⟨ha, hr⟩ : (p.attempt g now c).1.Like (q.execute g now c).1 ∧
        (p.attempt g now c).2 = (q.attempt g now c).2 := Player.attempt_like h
    have ha' : (p.attempt g now c).1.Like (q.attempt g now c).1 := ha.trans Player.attempt_like_execute.symm
    exact ⟨ha, hr, by simp only [(Player.attempt_like ha').right]⟩

theorem status_take {r : Response} (h : p.Like q) (hc : plan.command = some c) (ho : Ply.outcome g ⟨⟨now, c⟩, q⟩ = .ok r) :
    (take g now p plan).player.status = .inProgress := by
  have hs : p.execute g now c = ({ (q.execute g now c).1 with status := p.status }, (q.execute g now c).2) :=
    h ▸ Player.execute_withStatus p.status
  have he : (p.execute g now c).2 = .ok r := by
    rw [hs]
    exact ho
  rw [take, hc]
  simp only [Player.attempt_of_ok he]

theorem recordId_take : (take g now p plan).player.recordId = p.recordId := by
  rw [take]
  cases plan.command with
  | none   => rfl
  | some c => exact Player.recordId_attempt

end Turn
end Skill
end Gamebook
