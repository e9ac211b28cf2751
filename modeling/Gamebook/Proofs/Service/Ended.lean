import Mathlib
import Gamebook.Proofs.Service.Answered
import Gamebook.Proofs.Story.Understood

namespace Gamebook

-- A part of what an answer tells the assistant to do.
def Http.Reply.response? (r : Reply) (part : String) : Option Json :=
  match r.content with
  | .json (.obj ms) => match Json.get? ms "response" with
    | some (.obj ps) => Json.get? ps part
    | _              => none
  | _ => none

-- Speech as it is sent.
def Skill.Answer.ssml (text : String) : Json :=
  .obj [("type", .str "SSML"), ("ssml", .str text)]

-- What ends a session: that there is no adventure, that the assistant is told to stop, or that the
-- player is let go.
inductive Service.Ends (s : Service) (now : Timestamp) (q : Skill.Request) : Prop
  | unloaded (ha : s.adventure.2 = .error e)
  | stopped  (hi : q.occasion = .intent n) (hn : n = "AMAZON.StopIntent" ∨ n = "AMAZON.CancelIntent")
  | quitted  (hi : q.occasion = .intent n) (hn : Command.parse n = some .quit) (ha : s.adventure.2 = .ok g)
             (ho : s.store.restorePlayer g now q.recordId q.isNew q.attributes = .ok o)
             (hr : (o.execute g now .quit).2 = .ok r)

-- The command that a request stands for cannot be carried out.
inductive Service.Fails (s : Service) (now : Timestamp) (q : Skill.Request) : Prop
  | intro (hp : q.occasion.plan? = some plan) (hc : plan.command = some cmd) (ha : s.adventure.2 = .ok g)
          (ho : s.store.restorePlayer g now q.recordId q.isNew q.attributes = .ok o)
          (hm : (o.execute g now cmd).2 = .error m)

variable {s : Service} {c : Call} {q : Skill.Request} {g : PlaceGraph} {settings : Settings} {now : Timestamp}
  {plan : Skill.Plan} {o p : Player} {a : Skill.Answer} {cmd : Command} {occasion : Skill.Occasion}

namespace Player

theorem bye_mem_attempt :
    .bye ∈ (p.attempt g now cmd).2.flatten ↔ cmd = .quit ∧ ∃ r, (p.execute g now cmd).2 = .ok r := by
  cases h : (p.execute g now cmd).2 with
  | ok r    =>
    obtain ⟨w, hw, hr, _⟩ := Ply.walk_of_ok (x := ⟨⟨now, cmd⟩, p⟩) h
    simp [attempt_of_ok h, hr, Walk.bye_mem_ofCommand hw]
  | error m => simp [attempt_of_error h, Response.flatten]

end Player

namespace Settings

-- Whatever the settings, an apology can be spoken.
theorem speak_apology (settings : Settings) :
    ∃ ends, settings.speak (.single (.say Player.apology)) = .ok ⟨Speech.document [.paragraph Player.apology], ends⟩ := by
  rw [speak]
  split <;> exact ⟨_, rfl⟩

end Settings

namespace Skill

namespace Occasion

theorem exists_plan? (h : occasion ≠ .other) : ∃ plan, occasion.plan? = some plan := by
  cases occasion with
  | launch   => exact ⟨_, rfl⟩
  | intent n => exact ⟨_, rfl⟩
  | other    => exact absurd rfl h

theorem parse_of_mem_stopIntents {n : String} (h : n ∈ stopIntents) : Command.parse n = none ∧ n ≠ helpIntent := by
  have hs : ∀ n ∈ stopIntents, Command.parse n = none ∧ n ≠ helpIntent := by decide
  exact hs n h

-- The intents that stop the assistant are not prompted after, and the others that quit are commands.
theorem ends_iff {b : Prop} (h : occasion.plan? = some plan) :
    plan.reprompts = false ∨ plan.command = some .quit ∧ b ↔
      ∃ n, occasion = .intent n ∧ (n ∈ stopIntents ∨ Command.parse n = some .quit ∧ b) := by
  cases occasion with
  | launch   =>
    cases h
    simp
  | other    => cases h
  | intent n =>
    obtain rfl : Plan.ofIntent n = plan := Option.some.inj h
    simp only [intent.injEq, exists_eq_left']
    cases hc : Command.parse n with
    | some c =>
      have hn : n ∉ stopIntents := fun hn => by simp [(parse_of_mem_stopIntents hn).left] at hc
      simp [Plan.ofIntent, hc, hn]
    | none   =>
      by_cases hh : n = helpIntent
      case pos =>
        have hn : n ∉ stopIntents := fun hn => (parse_of_mem_stopIntents hn).right hh
        rw [hh] at hc hn
        simp [Plan.ofIntent, hh, hc, hn]
      case neg => by_cases hn : n ∈ stopIntents <;> simp [Plan.ofIntent, hc, hh, hn]

end Occasion

namespace Turn

variable {t : Turn}

-- Is nothing expected from the player after a turn?
def IsLast (t : Turn) : Prop :=
  .bye ∈ t.response.flatten ∨ t.reprompt = none

theorem isLast_take : (take g now p plan).IsLast ↔
    plan.reprompts = false ∨ plan.command = some .quit ∧ ∃ r, (p.execute g now .quit).2 = .ok r := by
  have hr : (take g now p plan).reprompt = none ↔ plan.reprompts = false := by
    rw [take]
    cases plan.reprompts <;> simp
  have hb : .bye ∈ (take g now p plan).response.flatten ↔
      plan.command = some .quit ∧ ∃ r, (p.execute g now .quit).2 = .ok r := by
    rw [take]
    cases plan.command with
    | none     => simp [Response.flatten]
    | some cmd =>
      simp only [Player.bye_mem_attempt, Option.some.injEq]
      constructor <;> (rintro ⟨rfl, h⟩; exact ⟨rfl, h⟩)
  rw [IsLast, hr, hb, or_comm]

-- A turn is spoken with a reprompt, if it is not the last one.
theorem speak_cases (h : Service.Voice.speak settings t = .ok a) :
    ∃ speech, settings.speak t.response = .ok speech ∧
      (t.IsLast ∧ a = .spoken speech.text none true (some t.player) ∨
        ¬t.IsLast ∧ ∃ r help, t.reprompt = some r ∧ settings.speak r = .ok help ∧
          a = .spoken speech.text (some help.text) false (some t.player)) := by
  obtain ⟨speech, hs, h⟩ := Chain.bind_eq_ok.mp h
  refine ⟨speech, hs, ?_⟩
  rw [Settings.ended_of_speak hs, List.contains_eq_mem] at h
  rw [IsLast]
  by_cases hb : .bye ∈ t.response.flatten
  case pos =>
    simp only [hb, decide_true, if_true] at h
    cases h
    exact .inl ⟨.inl hb, rfl⟩
  case neg =>
    simp only [hb, decide_false, Bool.false_eq_true, if_false] at h
    cases hr : t.reprompt with
    | none   =>
      rw [hr] at h
      cases h
      exact .inl ⟨.inr rfl, rfl⟩
    | some r =>
      rw [hr] at h
      obtain ⟨help, hh, h⟩ := Chain.bind_eq_ok.mp h
      cases h
      exact .inr ⟨by simp [hb], r, help, rfl, hh, rfl⟩

end Turn

end Skill

-- What is told of an answer, part by part.
section

variable {n : Nat} {text : String} {reprompt : Option String} {ends : Bool} {player : Option Player}

@[simp]
theorem Http.Reply.outputSpeech_spoken :
    response? ⟨n, .json (Skill.Answer.spoken text reprompt ends player).toJson⟩ "outputSpeech" =
      some (Skill.Answer.ssml text) :=
  rfl

@[simp]
theorem Http.Reply.shouldEndSession_spoken :
    response? ⟨n, .json (Skill.Answer.spoken text reprompt ends player).toJson⟩ "shouldEndSession" = some (.bool ends) :=
  rfl

@[simp]
theorem Http.Reply.reprompt_spoken :
    response? ⟨n, .json (Skill.Answer.spoken text reprompt ends player).toJson⟩ "reprompt" =
      reprompt.map fun t => .obj [("outputSpeech", Skill.Answer.ssml t)] := by
  cases reprompt <;> rfl

end

namespace Service

theorem reply_of_status (hc : c.skill? = some q) (h : (s.answer c).2.status = 200) :
    ∃ a, (Voice.answer s c.now q).result = .ok a ∧ (s.answer c).2 = ⟨200, .json a.toJson⟩ := by
  obtain ⟨a, ha, hp⟩ := (status_answer hc).mp h
  refine ⟨a, ha, ?_⟩
  rw [reply_of_skill hc, ha, Voice.rendered_ok, if_pos (Skill.Answer.isPortable_toJson_iff.mpr hp)]

theorem settings_of_answer (hp : q.occasion.plan? = some plan) (h : (Voice.answer s now q).result = .ok a) :
    ∃ settings, s.store.settings = .ok settings := by
  cases hs : s.store.settings with
  | ok settings => exact ⟨settings, rfl⟩
  | error e     =>
    rw [Voice.answer, hp] at h
    simp only [Voice.begin, hs] at h
    cases h

-- An answer over an adventure is what is spoken of the turn of the player who has been restored.
theorem speak_of_answer (ha : s.adventure.2 = .ok g) (hs : s.store.settings = .ok settings)
    (hp : q.occasion.plan? = some plan) (h : (Voice.answer s now q).result = .ok a) :
    ∃ o, s.store.restorePlayer g now q.recordId q.isNew q.attributes = .ok o ∧
      Voice.speak settings (.take g now o plan) = .ok a := by
  cases ho : s.store.restorePlayer g now q.recordId q.isNew q.attributes with
  | error e =>
    rw [answer_of_unrestored ha hs hp ho] at h
    cases h
  | ok o    =>
    refine ⟨o, rfl, ?_⟩
    cases hk : s.store.keepPlayer (Skill.Turn.take g now o plan).player with
    | error e  =>
      rw [answer_of_unkept ha hs hp ho hk] at h
      cases h
    | ok store =>
      rw [answer_of_kept ha hs hp ho hk] at h
      obtain ⟨_, _, h⟩ := Chain.bind_eq_ok.mp h
      exact h

theorem ends_of_loaded (ha : s.adventure.2 = .ok g) (hp : q.occasion.plan? = some plan)
    (ho : s.store.restorePlayer g now q.recordId q.isNew q.attributes = .ok o) :
    s.Ends now q ↔ (Skill.Turn.take g now o plan).IsLast := by
  rw [Skill.Turn.isLast_take, Skill.Occasion.ends_iff hp]
  constructor
  · rintro (he | ⟨hi, hn⟩ | ⟨hi, hn, ha', ho', hr⟩)
    · cases ha.symm.trans he
    · exact ⟨_, hi, .inl (by simpa [Skill.stopIntents] using hn)⟩
    · cases ha.symm.trans ha'
      cases ho.symm.trans ho'
      exact ⟨_, hi, .inr ⟨hn, _, hr⟩⟩
  · rintro ⟨n, hi, hn | ⟨hn, r, hr⟩⟩
    · exact .stopped hi (by simpa [Skill.stopIntents] using hn)
    · exact .quitted hi hn ha ho hr

-- A command that fails is answered with an apology.
theorem speech_of_fails {speech : Speech} (ha : s.adventure.2 = .ok g) (hp : q.occasion.plan? = some plan)
    (ho : s.store.restorePlayer g now q.recordId q.isNew q.attributes = .ok o)
    (ht : settings.speak (Skill.Turn.take g now o plan).response = .ok speech) (h : s.Fails now q) :
    speech.text = Speech.document [.paragraph Player.apology] := by
  obtain ⟨hp', hc, ha', ho', hm⟩ := h
  cases hp.symm.trans hp'
  cases ha.symm.trans ha'
  cases ho.symm.trans ho'
  obtain ⟨_, he⟩ := Settings.speak_apology settings
  have hr : (Skill.Turn.take g now o plan).response = .single (.say Player.apology) := by
    rw [Skill.Turn.take, hc]
    exact congrArg Prod.snd (Player.attempt_of_error hm)
  rw [hr] at ht
  cases ht.symm.trans he
  rfl

theorem reprompt_take {r : Response} (h : (Skill.Turn.take g now o plan).reprompt = some r) :
    r = ((Skill.Turn.take g now o plan).player.attempt g now .help).2 := by
  rw [Skill.Turn.take] at h
  simp only [Option.ite_none_right_eq_some, Option.some.injEq] at h
  exact h.right.symm

-- A session goes on as long as the player is prompted again, which nothing but an end of it keeps
-- from happening.
theorem ended_iff (hc : c.skill? = some q) (hq : q.occasion ≠ .other) (h : (s.answer c).2.status = 200) :
    (((s.answer c).2.response? "reprompt").isSome ↔
      (s.answer c).2.response? "shouldEndSession" = some (.bool false)) ∧
    ((s.answer c).2.response? "shouldEndSession" = some (.bool true) ↔ s.Ends c.now q) ∧
    ((s.answer c).2.response? "shouldEndSession" = some (.bool false) ↔ ¬s.Ends c.now q) ∧
    ((s.answer c).2.player?.isSome ↔ ∃ g, s.adventure.2 = .ok g) ∧
    (¬s.Ends c.now q → ∃ settings g p help, s.store.settings = .ok settings ∧ s.adventure.2 = .ok g ∧
      (s.answer c).2.player? = some (Player.toJson p) ∧ settings.speak (p.attempt g c.now .help).2 = .ok help ∧
      (s.answer c).2.response? "reprompt" = some (.obj [("outputSpeech", Skill.Answer.ssml help.text)])) ∧
    (s.Fails c.now q → (s.answer c).2.response? "outputSpeech" =
      some (Skill.Answer.ssml (Speech.document [.paragraph "Oops, something went wrong. Please try again."]))) := by
  obtain ⟨plan, hp⟩ := Skill.Occasion.exists_plan? hq
  obtain ⟨a, hr, ha⟩ := reply_of_status hc h
  obtain ⟨settings, hs⟩ := settings_of_answer hp hr
  rw [ha, Skill.Answer.player?_reply]
  cases hg : s.adventure.2 with
  | error e =>
    have hn : s.Ends c.now q := .unloaded hg
    rw [answer_of_unloaded hg hs hp] at hr
    split at hr
    case isFalse => cases hr
    case isTrue  =>
      cases hr
      rw [Voice.apology]
      simp [hn, Skill.Answer.player?, Player.apology]
  | ok g    =>
    obtain ⟨o, ho, hv⟩ := speak_of_answer hg hs hp hr
    obtain ⟨speech, ht, hv⟩ := Skill.Turn.speak_cases hv
    have hf := speech_of_fails hg hp ho ht
    rw [ends_of_loaded hg hp ho]
    obtain ⟨hl, rfl⟩ | ⟨hl, r, help, hm, hh, rfl⟩ := hv
    case inl =>
      refine ⟨by simp, by simp [hl], by simp [hl], by simp [Skill.Answer.player?], absurd hl, fun h => ?_⟩
      rw [Http.Reply.outputSpeech_spoken, hf h]
      rfl
    case inr =>
      refine ⟨by simp, by simp [hl], by simp [hl], by simp [Skill.Answer.player?],
        fun _ => ⟨settings, g, _, help, hs, rfl, rfl, reprompt_take hm ▸ hh, by simp⟩, fun h => ?_⟩
      rw [Http.Reply.outputSpeech_spoken, hf h]
      rfl

-- Whatever Alice begins with, she is answered.
theorem status_offering (hg : g.WellFormed) (hm : g.IsMeasured) (hq : c.skill? = some ⟨true, "alice", [], occasion⟩)
    (hp : occasion.plan? = some plan) : ((offering "story.json" g).answer c).2.status = 200 := by
  have hs := isPlayable_offering hg
  rw [status_of_turn keeps_offering hs.adventure hs.config hs.quiet hq Store.hasRoomFor_alice hp restorePlayer_offering]
  exact ⟨Skill.Turn.isCountable_take_fresh, (Skill.Turn.isMeasured_take hm).said, .inl ⟨_, rfl⟩⟩

-- Alice is prompted after she has started, but not after she has stopped the assistant.
theorem ended_crossing :
    (Call.launch "alice" .morning).skill? = some ⟨true, "alice", [], .launch⟩ ∧
    ((offering "story.json" .crossing).answer (.launch "alice" .morning)).2.status = 200 ∧
    (((offering "story.json" .crossing).answer (.launch "alice" .morning)).2.response? "reprompt").isSome ∧
    ((offering "story.json" .crossing).answer
      (Skill.Request.call ⟨true, "alice", [], .intent "AMAZON.StopIntent"⟩ .morning)).2.response? "shouldEndSession" =
        some (.bool true) := by
  have hg := PlaceGraph.wellFormed_crossing
  have hm := PlaceGraph.isMeasured_crossing
  have hq : (Call.launch "alice" .morning).skill? = some ⟨true, "alice", [], .launch⟩ := Call.skill?_launch
  have hq' : (Skill.Request.call ⟨true, "alice", [], .intent "AMAZON.StopIntent"⟩ .morning).skill? = some _ :=
    Skill.Request.skill?_call .empty .morning
  have hs : ((offering "story.json" .crossing).answer (.launch "alice" .morning)).2.status = 200 :=
    status_offering hg hm hq rfl
  have hn : ¬(offering "story.json" .crossing).Ends .morning ⟨true, "alice", [], .launch⟩ := by
    rintro (he | ⟨⟨⟩⟩ | ⟨⟨⟩⟩)
    cases (isPlayable_offering hg).adventure.symm.trans he
  obtain ⟨hr, _, hf, _⟩ := ended_iff hq (by decide) hs
  obtain ⟨_, ht, _⟩ := ended_iff hq' (by decide) (status_offering hg hm hq' rfl)
  exact ⟨hq, hs, hr.mpr (hf.mpr hn), ht.mpr (.stopped rfl (.inl rfl))⟩

end Service
end Gamebook
