import Mathlib
import Gamebook.Proofs.Service.Answered

namespace Gamebook

-- The part of a request that tells whose session it belongs to.
def Skill.Session.ofJson : Json → Checked Skill.Session :=
  Form.record fun ms => Form.memberOr ms "session" .anonymous (Form.record readSession)

def Call.session? (c : Call) : Option Skill.Session :=
  match Service.Body.read Skill.Session.ofJson c.request.body with
  | .good session => some session
  | _             => none

-- A service that can be asked for turns of an adventure. What the files of players hold is left open:
-- anybody may have put there whatever they like.
structure Service.Offers (s : Service) (g : PlaceGraph) (settings : Settings) : Prop where
  tidy      : s.store.IsTidy
  adventure : s.adventure.2 = .ok g
  config    : s.store.settings = .ok settings

variable {store store' : Store} {s t : Service} {c c' : Call} {q : Skill.Request} {g : PlaceGraph}
  {settings : Settings} {now : Timestamp} {plan : Skill.Plan} {o p : Player} {j : Json}
  {attributes : List (String × Json)}

namespace Store

-- Where there is no folder in the way, what has been stored before has no say in what can be stored.
theorem save_of_tidy (h : store.IsTidy) (r : String) :
    (store.held r).save j =
      if j.IsWritable then
        if HasRoomFor r then .ok (.file (FileText.encode j.render)) else .error (.file .nameTooLong)
      else .error .numberTooLong := by
  have hr : store.held r = .refused ↔ ¬HasRoomFor r := held_eq_refused h.setUp
  have hf : store.held r ≠ .folder := h.no_folder r
  rw [Found.save.eq_def]
  cases hh : store.held r with
  | folder  => exact absurd hh hf
  | refused => rw [if_neg (hr.mp hh)]
  | _       => rw [if_pos (not_not.mp (mt hr.mpr (by simp [hh])))]

theorem keepPlayer_of_tidy (h : store.IsTidy) (h' : store'.IsTidy) :
    (∃ e, store.keepPlayer p = .error e ∧ store'.keepPlayer p = .error e) ∨
    ∃ a b, store.keepPlayer p = .ok a ∧ store'.keepPlayer p = .ok b := by
  rw [keepPlayer, keepPlayer]
  split
  case isTrue  => exact .inr ⟨_, _, rfl, rfl⟩
  case isFalse =>
    have hs : (store.savePlayer p.recordId p.toJson).map (·.held p.recordId)
        = (store'.savePlayer p.recordId p.toJson).map (·.held p.recordId) := by
      rw [held_savePlayer h.setUp, held_savePlayer h'.setUp, save_of_tidy h, save_of_tidy h']
    rcases Chain.cases_of_map_eq hs with he | ⟨a, b, ha, hb, _⟩
    · exact .inl he
    · exact .inr ⟨a, b, ha, hb⟩

end Store

namespace Checked

theorem under_eq_good {α : Type} (step : Step) {x : Checked α} {a : α} : x.under step = good a ↔ x = good a := by
  cases x <;> simp [under]

theorem seq_eq_good {α β : Type} {f : Checked (α → β)} {x : Checked α} {b : β} :
    f <*> x = good b ↔ ∃ h a, f = good h ∧ x = good a ∧ h a = b := by
  cases f <;> cases x <;> simp [Seq.seq, seq]

theorem map_eq_good {α β : Type} {h : α → β} {x : Checked α} {b : β} :
    h <$> x = good b ↔ ∃ a, x = good a ∧ h a = b := by
  cases x <;> simp [Functor.map, seq]

end Checked

namespace Service.Body

theorem read_eq_good {α : Type} {form : Json → Checked α} {text : String} {a : α} :
    read form text = .good a ↔ text ≠ "" ∧ ∃ j, Json.read (unmarked text) = .ok j ∧ form j = .good a := by
  rw [read]
  split
  case isTrue h  => simp [h]
  case isFalse h =>
    cases hj : Json.read (unmarked text) with
    | error e => cases e <;> simp
    | ok j    =>
      simp only [h, ne_eq, not_false_eq_true, true_and, Except.ok.injEq, exists_eq_left']
      rw [← Checked.under_eq_good step]
      cases (form j).under step <;> simp

end Service.Body

-- The record of a request is that of the user, or else that of the session.
theorem Call.recordId_of_skill (h : c.skill? = some q) :
    ∃ session, c.session? = some session ∧
      q.recordId = if session.userId = "" then session.sessionId else session.userId := by
  have ⟨_, _, hb⟩ := Call.skill?_eq_some.mp h
  have ⟨ht, j, hj, hq⟩ := Service.Body.read_eq_good.mp hb
  cases j with
  | obj ms =>
    rw [Skill.Request.ofJson, Form.record] at hq
    obtain ⟨_, _, hv, _, rfl⟩ := Checked.seq_eq_good.mp hq
    obtain ⟨_, session, hm, hs, rfl⟩ := Checked.seq_eq_good.mp hv
    obtain ⟨_, _, rfl⟩ := Checked.map_eq_good.mp hm
    refine ⟨session, ?_, rfl⟩
    have hr : Service.Body.read Skill.Session.ofJson c.request.body = .good session :=
      Service.Body.read_eq_good.mpr ⟨ht, _, hj, hs⟩
    rw [Call.session?, hr]
  | _ => cases hq

namespace Service

-- In a running session the store is asked for nothing.
theorem answer_of_running (now : Timestamp) (hs : s.Offers g settings) (ht : t.Offers g settings)
    (hd : s.delivery = t.delivery) (hn : q.isNew = false) :
    (Voice.answer s now q).notice = (Voice.answer t now q).notice ∧
    (Voice.answer s now q).result = (Voice.answer t now q).result := by
  cases hp : q.occasion.plan? with
  | none      => simp [Voice.answer, hp]
  | some plan =>
    have ho : ∀ u : Service, u.store.restorePlayer g now q.recordId q.isNew q.attributes
        = .ok (.ofAttributes g now q.recordId q.attributes) := by
      intro u
      rw [Store.restorePlayer, hn]
      rfl
    rcases Store.keepPlayer_of_tidy
      (p := (Skill.Turn.take g now (.ofAttributes g now q.recordId q.attributes) plan).player)
      hs.tidy ht.tidy with ⟨e, ha, hb⟩ | ⟨a, b, ha, hb⟩
    · rw [answer_of_unkept hs.adventure hs.config hp (ho s) ha, answer_of_unkept ht.adventure ht.config hp (ho t) hb]
      exact ⟨rfl, rfl⟩
    · rw [answer_of_kept hs.adventure hs.config hp (ho s) ha, answer_of_kept ht.adventure ht.config hp (ho t) hb,
        sent, sent, hd]
      exact ⟨rfl, rfl⟩

-- In a new session the attributes are not looked at.
theorem answer_of_new (hn : q.isNew = true) : Voice.answer s now { q with attributes } = Voice.answer s now q := by
  have ho : ∀ u : Service, ∀ g, u.store.restorePlayer g now q.recordId q.isNew attributes
      = u.store.restorePlayer g now q.recordId q.isNew q.attributes := by
    intro u g
    simp only [Store.restorePlayer, hn, if_true]
  simp only [Voice.answer, Voice.begin, Voice.play, ho]

-- The player of an answer is the one whose session it is.
theorem recordId_answer (hs : s.Offers g settings) {a : Skill.Answer} (ha : (Voice.answer s now q).result = .ok a)
    (hp : a.player? = some p) : p.recordId = q.recordId := by
  cases hq : q.occasion.plan? with
  | none =>
    rw [Voice.answer, hq] at ha
    cases ha
    cases hp
  | some plan =>
    cases ho : s.store.restorePlayer g now q.recordId q.isNew q.attributes with
    | error e =>
      rw [answer_of_unrestored hs.adventure hs.config hq ho] at ha
      cases ha
    | ok o =>
      cases hk : s.store.keepPlayer (Skill.Turn.take g now o plan).player with
      | error e =>
        rw [answer_of_unkept hs.adventure hs.config hq ho hk] at ha
        cases ha
      | ok store =>
        rw [answer_of_kept hs.adventure hs.config hq ho hk] at ha
        obtain ⟨_, _, ha⟩ := Chain.bind_eq_ok.mp ha
        obtain ⟨_, _, _, rfl⟩ := Skill.Turn.exists_of_speak ha
        cases hp
        exact Skill.Turn.recordId_take.trans (Store.recordId_restorePlayer ho)

-- Where the player comes from who takes a turn: in a running session from the attributes, whatever may
-- have been stored, and in a new one from the store, whatever comes along with the request. Neither
-- has a say in whose player it is.
theorem sources (hs : s.Offers g settings) (ht : t.Offers g settings) (hd : s.delivery = t.delivery)
    (hq : c.skill? = some q) :
    (q.isNew = false → s.answer c = t.answer c) ∧
    (q.isNew = true → ∀ c' attributes, c'.skill? = some { q with attributes } → c'.now = c.now →
      s.answer c' = s.answer c ∧ s.after c' = s.after c) ∧
    (∀ j, (s.answer c).2.player? = some j → ∃ p : Player, j = p.toJson ∧ p.recordId = q.recordId) ∧
    ∃ session, c.session? = some session ∧
      q.recordId = if session.userId = "" then session.sessionId else session.userId := by
  refine ⟨fun hn => ?_, fun hn c' attributes hq' ht => ?_, fun j hj => ?_, Call.recordId_of_skill hq⟩
  · have ⟨ha, hr⟩ := answer_of_running c.now hs ht hd hn
    rw [answer, answer, handle_of_skill hq, handle_of_skill hq, ha, hr]
  · have ha : Voice.answer s c'.now { q with attributes } = Voice.answer s c.now q := ht ▸ answer_of_new hn
    rw [answer, answer, after, after, handle_of_skill hq, handle_of_skill hq', ha]
    exact ⟨rfl, rfl⟩
  · obtain ⟨a, p, ha, hp, _, rfl⟩ := (player?_answer hq).mp hj
    exact ⟨p, rfl, recordId_answer hs ha hp⟩

theorem offers_crossing : (offering "story.json" .crossing).Offers .crossing .default where
  tidy      := keeps_offering.isTidy (P := Player.IsCountable)
  adventure := (isPlayable_offering PlaceGraph.wellFormed_crossing).adventure
  config    := (isPlayable_offering PlaceGraph.wellFormed_crossing).config

theorem offers_launch :
    ((offering "story.json" .crossing).run [.launch "alice" .morning]).Offers .crossing .default := by
  have hp : ((offering "story.json" .crossing).run [.launch "alice" .morning]).IsPlayable .crossing .default :=
    isPlayable_launch PlaceGraph.wellFormed_crossing (by decide)
  exact ⟨(keeps_run keeps_offering).isTidy, hp.adventure, hp.config⟩

-- It makes no difference to Alice that she has been stored, nor, when she starts anew, that she comes with
-- Bob's player.
theorem sources_alice :
    (offering "story.json" .crossing).answer (.say (.fresh "alice" .morning) "1" .morning) =
      ((offering "story.json" .crossing).run [.launch "alice" .morning]).answer
        (.say (.fresh "alice" .morning) "1" .morning) ∧
    (offering "story.json" .crossing).answer
        (Skill.Request.call ⟨true, "alice", [("player", (Player.fresh "bob" .morning).toJson)], .launch⟩ .morning) =
      (offering "story.json" .crossing).answer (.launch "alice" .morning) := by
  have hd : ((offering "story.json" .crossing).run [.launch "alice" .morning]).delivery
      = (offering "story.json" .crossing).delivery := by
    rw [run, List.foldl_cons, List.foldl_nil]
    exact after_turned.delivery
  have hq : (Call.say (.fresh "alice" .morning) "1" .morning).skill? = some _ :=
    Call.skill?_say Player.isCountable_fresh
  have hq' : (Skill.Request.call ⟨true, "alice", [("player", (Player.fresh "bob" .morning).toJson)], .launch⟩
      .morning).skill? = some _ :=
    Skill.Request.skill?_call (.obj (by simpa using Player.recoverable_toJson Player.isCountable_fresh) (by simp)) _
  obtain ⟨hr, _⟩ := sources offers_crossing offers_launch hd.symm hq
  obtain ⟨_, hn, _⟩ := sources offers_crossing offers_crossing rfl
    (Call.skill?_launch : (Call.launch "alice" .morning).skill? = _)
  exact ⟨hr rfl, (hn rfl _ _ hq' rfl).left⟩

end Service
end Gamebook
