import Mathlib
import Gamebook.Proofs.Service.Keeping
import Gamebook.Proofs.Service.Sessions
import Gamebook.Proofs.Speech.Pauses
import Gamebook.Proofs.Store.Configured

namespace Gamebook

variable {s : Service} {store : Store} {c : Call} {calls : List Call} {q : Skill.Request} {g : PlaceGraph}
  {settings : Settings} {now : Timestamp} {plan : Skill.Plan} {o : Player} {t : Skill.Turn}

namespace Service

-- A turn of somebody who can be stored is answered if the counters can be written and everything
-- that is said in it can be spoken.
theorem status_of_turn (hk : s.store.Keeps Player.IsCountable) (ha : s.adventure.2 = .ok g)
    (hc : s.store.settings = .ok settings)
    (hw : (settings .webhookUrl).isNothing) (hq : c.skill? = some q) (hr : Store.HasRoomFor q.recordId)
    (hp : q.occasion.plan? = some plan)
    (ho : s.store.restorePlayer g c.now q.recordId q.isNew q.attributes = .ok o) :
    (s.answer c).2.status = 200 ↔
      (Skill.Turn.take g c.now o plan).player.IsCountable ∧ settings.CanSpeak (Skill.Turn.take g c.now o plan).said := by
  have hi : (Skill.Turn.take g c.now o plan).player.recordId = q.recordId :=
    Skill.Turn.recordId_take.trans (Store.recordId_restorePlayer ho)
  have he := hk.exists_keepPlayer (p := (Skill.Turn.take g c.now o plan).player)
  rw [Player.IsStorable, hi, and_iff_right hr] at he
  rw [status_answer hq, ← Skill.Turn.speak_eq_ok]
  cases hk : s.store.keepPlayer (Skill.Turn.take g c.now o plan).player with
  | error e =>
    rw [answer_of_unkept ha hc hp ho hk]
    rw [hk] at he
    refine iff_of_false (by rintro ⟨_, h, _⟩; cases h) fun h => ?_
    obtain ⟨_, h⟩ := he.mpr (.inr h.left)
    cases h
  | ok store =>
    obtain ⟨_, hres⟩ := answer_of_quiet ha hc hp ho hw hk
    rw [hres]
    constructor
    · rintro ⟨a, h, hf⟩
      obtain ⟨_, _, _, rfl⟩ := Skill.Turn.exists_of_speak h
      exact ⟨hf _ rfl, _, h⟩
    · rintro ⟨hf, a, h⟩
      obtain ⟨_, _, _, rfl⟩ := Skill.Turn.exists_of_speak h
      refine ⟨_, h, fun p hp => ?_⟩
      cases hp
      exact hf

theorem keeps_offering {P : Player → Prop} : (offering "story.json" g).store.Keeps P :=
  .of_empty ⟨rfl, rfl⟩ playerFiles_offering

theorem isPlayable_launch {user : String} {now : Timestamp} (hg : g.WellFormed) (hn : user ≠ "") :
    ((offering "story.json" g).run [.launch user now]).IsPlayable g .default := by
  obtain ⟨_, hh⟩ := (isPlayable_offering hg).hosts playerFiles_offering
  have hc : (Call.launch user now).concern ≠ .settings := by simp [Call.concern_of_plan hn Call.plan?_launch]
  exact (hh.after hc).isPlayable

theorem restorePlayer_offering : (offering "story.json" g).store.restorePlayer g now "alice" true [] =
    .ok (.fresh "alice" now) :=
  Store.restorePlayer_of_nothing (by simp)
    (Store.held_of_empty (keeps_offering : (offering "story.json" g).store.Keeps Player.IsCountable).setUp playerFiles_offering Store.hasRoomFor_alice)

end Service

-- A place where one may fall asleep.
def PlaceGraph.meadow : PlaceGraph where
  places := ⟨[
    ("start", {
      id      := "start"
      choices := ⟨[(.option 0, [⟨.pause, "1e306"⟩])], by decide⟩
    })
  ], by decide⟩

theorem PlaceGraph.wellFormed_meadow : meadow.WellFormed :=
  ⟨by unfold Keyed; decide, by decide⟩

theorem milliseconds_meadow : Speech.milliseconds (.finite false 6413338752028713 964) = .error .infinite := by
  decide +kernel

namespace Service

end Service
end Gamebook
