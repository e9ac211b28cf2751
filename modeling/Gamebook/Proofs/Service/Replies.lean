import Mathlib
import Gamebook.Proofs.Service.Requests
import Gamebook.Proofs.Skill.Saved
import Gamebook.Proofs.Skill.Spoken
import Gamebook.Proofs.Story.Travel

namespace Gamebook

-- The player who goes along with an answer.
def Skill.Answer.player? : Skill.Answer → Option Player
  | nothing        => none
  | spoken _ _ _ p => p

def Http.Reply.player? (r : Http.Reply) : Option Json :=
  match r.content with
  | .json (.obj ms) => match Json.get? ms "sessionAttributes" with
    | some (.obj as) => Json.get? as "player"
    | _              => none
  | _ => none

theorem Http.Reply.player?_failure : failure.player? = none :=
  rfl

namespace Skill.Answer

theorem isPortable_toJson_iff {a : Answer} : a.toJson.IsPortable ↔ ∀ p, a.player? = some p → p.IsCountable := by
  have hp {p : Player} : p.toJson.IsPortable ↔ p.IsCountable :=
    ⟨fun h => Player.isWritable_toJson_iff.mp h.left, Player.isPortable_toJson⟩
  simp only [← hp]
  cases a with
  | nothing        => simp [toJson, attributes, response, player?, Json.IsPortable, Json.IsWritable,
      Json.anyScalar, Json.anyMember, Json.isOversize, Json.isUnbounded]
  | spoken s r e p =>
    cases p <;> cases r <;> simp [toJson, attributes, response, outputSpeech, player?, Json.IsPortable,
      Json.IsWritable, Json.anyScalar, Json.anyMember, Json.isOversize, Json.isUnbounded]

theorem player?_reply {a : Answer} {n : Nat} :
    Http.Reply.player? ⟨n, .json a.toJson⟩ = a.player?.map Player.toJson := by
  cases a with
  | nothing        => rfl
  | spoken s r e p => cases p <;> rfl

end Skill.Answer

-- The request with which a user starts.
def Call.launch (user : String) (now : Timestamp) : Call :=
  Skill.Request.call ⟨true, user, [], .launch⟩ now

-- What users say in a session in which they are sent along.
def Call.say (o : Player) (intent : String) (now : Timestamp) : Call :=
  Skill.Request.call ⟨false, o.recordId, [("player", o.toJson)], .intent intent⟩ now

namespace Call

variable {user intent : String} {now : Timestamp} {o : Player}

theorem skill?_launch : (launch user now).skill? = some ⟨true, user, [], .launch⟩ :=
  Skill.Request.skill?_call .empty now

theorem skill?_say (h : o.IsCountable) :
    (say o intent now).skill? = some ⟨false, o.recordId, [("player", o.toJson)], .intent intent⟩ :=
  Skill.Request.skill?_call (.obj (by simpa using o.recoverable_toJson h) (by simp)) now

end Call

namespace Settings

theorem announce_of_nothing {settings : Settings} {d : Delivery} {o : Player} (h : (settings .webhookUrl).isNothing) :
    (settings.announce d o).2 = .ok () := by
  rw [announce, if_pos h]

end Settings

namespace Service

variable {s : Service} {store : Store} {c : Call} {q : Skill.Request} {j : Json} {g : PlaceGraph}
  {settings : Settings} {t : Skill.Turn} {now : Timestamp} {plan : Skill.Plan}

-- What comes back for an answer. Some cannot be sent.
def Voice.rendered (r : Except Fault Skill.Answer) : Http.Reply :=
  match do reply (← r).toJson with
  | .ok r    => r
  | .error _ => .failure

theorem Voice.rendered_error (e : Fault) : rendered (.error e) = .failure :=
  rfl

theorem Voice.rendered_ok {a : Skill.Answer} :
    rendered (.ok a) = if a.toJson.IsPortable then ⟨200, .json a.toJson⟩ else .failure := by
  rw [rendered, Chain.ok_bind, reply]
  by_cases ha : a.toJson.IsPortable
  case pos => simp only [if_pos ha]
  case neg => simp only [if_neg ha]

theorem handle_of_skill (h : c.skill? = some q) :
    s.handle c.now c.request = ((Voice.answer s c.now q).service, (Voice.answer s c.now q).notice,
      Voice.rendered (Voice.answer s c.now q).result) := by
  have ⟨hm, hr, hb⟩ := Call.skill?_eq_some.mp h
  have hf : s.follow c.now c.request .skill = postSkill s c.now c.request.body := by
    unfold follow
    split <;> simp_all
  rw [handle, hr]
  dsimp only
  rewrite [hf, postSkill, hb]
  rfl

theorem after_of_skill (h : c.skill? = some q) : s.after c = (Voice.answer s c.now q).service :=
  congrArg Prod.fst (handle_of_skill h)

theorem reply_of_skill (h : c.skill? = some q) : (s.answer c).2 = Voice.rendered (Voice.answer s c.now q).result :=
  congrArg (·.2.2) (handle_of_skill h)

theorem notice_of_skill (h : c.skill? = some q) : (s.answer c).1 = (Voice.answer s c.now q).notice :=
  congrArg (·.2.1) (handle_of_skill h)

theorem status_answer (h : c.skill? = some q) :
    (s.answer c).2.status = 200 ↔
      ∃ a, (Voice.answer s c.now q).result = .ok a ∧ ∀ p, a.player? = some p → p.IsCountable := by
  simp only [← Skill.Answer.isPortable_toJson_iff]
  rw [reply_of_skill h]
  cases (Voice.answer s c.now q).result with
  | error e => simp [Voice.rendered_error, Http.Reply.failure]
  | ok a    =>
    rw [Voice.rendered_ok]
    by_cases ha : a.toJson.IsPortable
    case pos => simp [ha]
    case neg => simp [ha, Http.Reply.failure]

theorem player?_answer (h : c.skill? = some q) :
    (s.answer c).2.player? = some j ↔
      ∃ a p, (Voice.answer s c.now q).result = .ok a ∧ a.player? = some p ∧ p.IsCountable ∧ p.toJson = j := by
  rw [reply_of_skill h]
  cases (Voice.answer s c.now q).result with
  | error e => simp [Voice.rendered_error, Http.Reply.player?_failure]
  | ok a    =>
    rw [Voice.rendered_ok]
    by_cases hp : a.toJson.IsPortable
    case pos =>
      rw [if_pos hp, Skill.Answer.player?_reply, Option.map_eq_some_iff]
      constructor
      · rintro ⟨p, ha, hj⟩
        exact ⟨a, p, rfl, ha, Skill.Answer.isPortable_toJson_iff.mp hp p ha, hj⟩
      · rintro ⟨_, p, ⟨⟩, ha, _, hj⟩
        exact ⟨p, ha, hj⟩
    case neg =>
      rw [if_neg hp]
      refine iff_of_false (Http.Reply.player?_failure ▸ by simp) ?_
      rintro ⟨_, p, ⟨⟩, ha, hc, _⟩
      refine hp (Skill.Answer.isPortable_toJson_iff.mpr fun p' hp' => ?_)
      cases ha.symm.trans hp'
      exact hc

-- What makes it known that an ending has been reached, and whether that went as it should.
def sent (s : Service) (settings : Settings) (t : Skill.Turn) : Option Notice × Except Notice.Fault Unit :=
  if t.finishes then settings.announce s.delivery t.player else (none, .ok ())

theorem sent_adventure : s.adventure.1.sent settings t = s.sent settings t := by
  have hd : s.adventure.1.delivery = s.delivery := adventure_turned.delivery
  rw [sent, sent, hd]

theorem sent_of_nothing (hw : (settings .webhookUrl).isNothing) : (s.sent settings t).2 = .ok () := by
  rw [sent]
  split
  case isTrue  => exact Settings.announce_of_nothing hw
  case isFalse => rfl

theorem finish_of_kept (hk : s.store.keepPlayer t.player = .ok store) :
    Voice.finish s settings t =
      ⟨{ s with store }, (s.sent settings t).1, do Voice.excuse (s.sent settings t).2; Voice.speak settings t⟩ := by
  rw [Voice.finish, hk]
  rfl

theorem finish_of_unkept {e : Store.Fault} (hk : s.store.keepPlayer t.player = .error e) :
    Voice.finish s settings t = ⟨s, none, .error (.store e)⟩ := by
  rw [Voice.finish, hk]

-- Without an adventure there is an apology at most.
theorem answer_of_unloaded {e : Fault} (ha : s.adventure.2 = .error e) (hc : s.store.settings = .ok settings)
    (hq : q.occasion.plan? = some plan) :
    Voice.answer s now q =
      ⟨s.adventure.1, none, if Voice.isExcused e then .ok Voice.apology else .error e⟩ := by
  have ha : s.adventure = (s.adventure.1, .error e) := Prod.ext rfl ha
  rw [Voice.answer, hq]
  simp only [Voice.begin, hc]
  rw [ha]

section

variable (ha : s.adventure.2 = .ok g) (hc : s.store.settings = .ok settings) (hq : q.occasion.plan? = some plan)
include ha hc hq

theorem answer_eq_play : Voice.answer s now q = Voice.play s.adventure.1 settings g now q plan := by
  have ha : s.adventure = (s.adventure.1, .ok g) := Prod.ext rfl ha
  rw [Voice.answer, hq]
  simp only [Voice.begin, hc]
  rw [ha]

theorem answer_of_unrestored {e : Store.Fault}
    (ho : s.store.restorePlayer g now q.recordId q.isNew q.attributes = .error e) :
    Voice.answer s now q = ⟨s.adventure.1, none, .error (.store e)⟩ := by
  rw [answer_eq_play ha hc hq, Voice.play, store_adventure, ho]

variable {o : Player} (ho : s.store.restorePlayer g now q.recordId q.isNew q.attributes = .ok o)
include ho

-- A turn is taken by the player who has been restored.
theorem answer_of_kept (hk : s.store.keepPlayer (Skill.Turn.take g now o plan).player = .ok store) :
    Voice.answer s now q = ⟨{ s.adventure.1 with store }, (s.sent settings (.take g now o plan)).1, do
      Voice.excuse (s.sent settings (.take g now o plan)).2
      Voice.speak settings (.take g now o plan)⟩ := by
  rw [answer_eq_play ha hc hq, Voice.play, store_adventure, ho]
  simp only []
  rw [finish_of_kept (store_adventure.symm ▸ hk), sent_adventure]

-- It comes to nothing if the player cannot be stored.
theorem answer_of_unkept {e : Store.Fault}
    (hk : s.store.keepPlayer (Skill.Turn.take g now o plan).player = .error e) :
    Voice.answer s now q = ⟨s.adventure.1, none, .error (.store e)⟩ := by
  rw [answer_eq_play ha hc hq, Voice.play, store_adventure, ho]
  exact finish_of_unkept (store_adventure.symm ▸ hk)

theorem answer_of_quiet (hw : (settings .webhookUrl).isNothing)
    (hk : s.store.keepPlayer (Skill.Turn.take g now o plan).player = .ok store) :
    (Voice.answer s now q).service.store = store ∧
      (Voice.answer s now q).result = Voice.speak settings (.take g now o plan) := by
  rw [answer_of_kept ha hc hq ho hk, sent_of_nothing hw]
  exact ⟨rfl, rfl⟩

end

theorem result_of_excused {e : Fault} (ha : s.adventure.2 = .error e) (he : Voice.isExcused e)
    (hc : s.store.settings = .ok settings) (hp : q.occasion.plan? = some plan) :
    (Voice.answer s now q).result = .ok Voice.apology := by
  rw [answer_of_unloaded ha hc hp]
  exact if_pos he

-- The answer to a turn that has been stored.
theorem player?_of_speak (hq : c.skill? = some q)
    (ha : (Voice.answer s c.now q).result = Voice.speak settings t) (hm : t.IsMeasured) (hc : t.player.IsCountable)
    (j : Json) : (s.answer c).2.player? = some j ↔ t.IsAudible settings ∧ j = t.player.toJson := by
  have hs : (∃ a, Voice.speak settings t = .ok a) ↔ settings.HasSounds ∨ ¬t.said.any Directive.isPlay :=
    Skill.Turn.speak_eq_ok.trans (and_iff_right hm.said)
  rw [player?_answer hq, ha, Skill.Turn.IsAudible, ← hs]
  constructor
  · rintro ⟨a, p, h, hp, _, hj⟩
    obtain ⟨_, _, _, rfl⟩ := Skill.Turn.exists_of_speak h
    cases hp
    exact ⟨⟨_, h⟩, hj.symm⟩
  · rintro ⟨⟨a, h⟩, hj⟩
    obtain ⟨_, _, _, rfl⟩ := Skill.Turn.exists_of_speak h
    exact ⟨_, _, h, rfl, hc, hj.symm⟩

end Service

theorem PlaceGraph.isMeasured_crossing : crossing.IsMeasured := by
  simp [IsMeasured, crossing, Ordered.values]

end Gamebook
