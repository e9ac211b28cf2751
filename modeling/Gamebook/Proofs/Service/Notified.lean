import Mathlib
import Gamebook.Proofs.Service.Muted
import Gamebook.Proofs.Story.Arrival

namespace Gamebook

variable {s : Service} {store : Store} {c : Call} {calls : List Call} {q : Skill.Request} {g : PlaceGraph}
  {settings : Settings} {now : Timestamp} {plan : Skill.Plan} {o : Player} {t : Skill.Turn}

-- Does the command of a turn succeed, and lead a player into an ending?
def Player.Arrives (o : Player) (g : PlaceGraph) (now : Timestamp) (plan : Skill.Plan) : Prop :=
  ∃ c, plan.command = some c ∧ (∃ r, (o.execute g now c).2 = .ok r) ∧
    ∃ as, g.choice? o.placeId c = some as ∧ g.Reaches o.placeId as

namespace Skill.Turn

theorem finishes_take : (take g now o plan).finishes ↔
    ∃ c, plan.command = some c ∧ Ply.finishes g ⟨⟨now, c⟩, o⟩ := by
  rw [finishes, take]
  cases plan.command with
  | none   => simp [Response.flatten]
  | some c =>
    simp only [Option.some.injEq, exists_eq_left', Ply.finishes, Ply.directives, Ply.outcome]
    cases h : (o.execute g now c).2 with
    | ok r    => rw [Player.attempt_of_ok h]
    | error m => simp [Player.attempt_of_error h, Response.flatten]

-- Nothing but the command of a turn tells of an ending, neither an apology nor the reprompt.
theorem finishes_iff_arrives (hk : g.Keyed) : (take g now o plan).finishes ↔ o.Arrives g now plan := by
  have hs (c : Command) : Ply.succeeds g ⟨⟨now, c⟩, o⟩ ↔ ∃ r, (o.execute g now c).2 = .ok r := by
    rw [Ply.succeeds, Ply.outcome]
    cases (o.execute g now c).2 <;> simp [Except.isOk, Except.toBool]
  simp only [finishes_take, Ply.finishes_iff hk, hs, Player.Arrives]

end Skill.Turn

namespace Service

section

variable (hk : s.store.Keeps Player.IsCountable) (ha : s.adventure.2 = .ok g) (hc : s.store.settings = .ok settings)
  (hq : c.skill? = some q) (hp : q.occasion.plan? = some plan)
  (ho : s.store.restorePlayer g c.now q.recordId q.isNew q.attributes = .ok o)
include hk ha hc hq hp ho

-- The notice of a turn that has been stored, and what is answered along with it.
theorem notice_of_storable (hs : (Skill.Turn.take g c.now o plan).player.IsStorable) :
    (s.answer c).1 = (s.sent settings (.take g c.now o plan)).1 ∧
    (q.recordId ≠ "" → (s.after c).store.Holds (Skill.Turn.take g c.now o plan).player) ∧
    ∀ j, (s.answer c).2.player? = some j → j = (Skill.Turn.take g c.now o plan).player.toJson := by
  have hi : (Skill.Turn.take g c.now o plan).player.recordId = q.recordId :=
    Skill.Turn.recordId_take.trans (Store.recordId_restorePlayer ho)
  obtain ⟨store, hw⟩ := hk.exists_keepPlayer.mpr hs
  have he := answer_of_kept ha hc hp ho hw
  refine ⟨?_, fun hn => ?_, fun j hj => ?_⟩
  · rw [notice_of_skill hq, he]
  · rw [after_of_skill hq, he]
    rw [Store.keepPlayer, if_neg (hi ▸ hn)] at hw
    exact (Store.held_of_savePlayer hk.setUp hw).right
  · obtain ⟨a, p, hr, hp, _, rfl⟩ := (player?_answer hq).mp hj
    rw [he] at hr
    obtain ⟨_, _, hr⟩ := Chain.bind_eq_ok.mp hr
    obtain ⟨_, _, _, rfl⟩ := Skill.Turn.exists_of_speak hr
    cases hp
    rfl

theorem notice_of_unstorable (hs : ¬(Skill.Turn.take g c.now o plan).player.IsStorable) : (s.answer c).1 = none := by
  cases hw : s.store.keepPlayer (Skill.Turn.take g c.now o plan).player with
  | ok store => exact absurd (hk.exists_keepPlayer.mp ⟨store, hw⟩) hs
  | error e  => rw [notice_of_skill hq, answer_of_unkept ha hc hp ho hw]

end

-- It becomes known that a player has reached an ending when a command has led there and the player
-- could be stored, and at no other time. What becomes known is what is stored and answered.
theorem notified_iff {source : String} {hint : Option String} (hg : Definition.parse source hint = .ok g)
    (hk : s.store.Keeps Player.IsCountable) (calls : List Call) (ha : (s.run calls).adventure.2 = .ok g)
    (hc : (s.run calls).store.settings = .ok settings) (hq : c.skill? = some q) :
    (q.occasion.plan? = none → ((s.run calls).answer c).1 = none) ∧
    ∀ plan, q.occasion.plan? = some plan →
      (∀ e, (s.run calls).store.restorePlayer g c.now q.recordId q.isNew q.attributes = .error e →
        ((s.run calls).answer c).1 = none) ∧
      ∀ o p, (s.run calls).store.restorePlayer g c.now q.recordId q.isNew q.attributes = .ok o →
        p = (Skill.Turn.take g c.now o plan).player →
        (o.Arrives g c.now plan ∧ p.IsStorable →
          ((s.run calls).answer c).1 = (settings.announce (s.run calls).delivery p).1 ∧
          (∀ n, ((s.run calls).answer c).1 = some n → n = .log (Notice.line p.summary) ∨
            ∃ address authorization, n = .post address authorization (.obj p.summary)) ∧
          (∃ ms, p.toJson = .obj ms ∧ Json.Summarizes p.summary ms) ∧
          (q.recordId ≠ "" → ((s.run calls).after c).store.Holds p) ∧
          ∀ j, ((s.run calls).answer c).2.player? = some j → j = p.toJson) ∧
        (¬(o.Arrives g c.now plan ∧ p.IsStorable) → ((s.run calls).answer c).1 = none) ∧
        ((settings .webhookUrl).isNothing →
          (((s.run calls).answer c).1.isSome ↔ o.Arrives g c.now plan ∧ p.IsStorable)) := by
  have hk : (s.run calls).store.Keeps Player.IsCountable := keeps_run hk
  have hg := (Definition.wellFormed_of_parse hg).keyed
  refine ⟨fun hp => ?_, fun plan hp => ⟨fun e ho => ?_, ?_⟩⟩
  · rw [notice_of_skill hq, Voice.answer, hp]
  · rw [notice_of_skill hq, answer_of_unrestored ha hc hp ho]
  · rintro o _ ho rfl
    have hf : (Skill.Turn.take g c.now o plan).finishes ↔ o.Arrives g c.now plan := Skill.Turn.finishes_iff_arrives hg
    have hy (h : o.Arrives g c.now plan ∧ (Skill.Turn.take g c.now o plan).player.IsStorable) :
        ((s.run calls).answer c).1 =
          (settings.announce (s.run calls).delivery (Skill.Turn.take g c.now o plan).player).1 := by
      rw [(notice_of_storable hk ha hc hq hp ho h.right).left, sent, if_pos (hf.mpr h.left)]
    have hn (h : ¬(o.Arrives g c.now plan ∧ (Skill.Turn.take g c.now o plan).player.IsStorable)) :
        ((s.run calls).answer c).1 = none := by
      by_cases hs : (Skill.Turn.take g c.now o plan).player.IsStorable
      case pos =>
        rw [(notice_of_storable hk ha hc hq hp ho hs).left, sent, if_neg fun hf' => h ⟨hf.mp hf', hs⟩]
      case neg => exact notice_of_unstorable hk ha hc hq hp ho hs
    refine ⟨fun h => ?_, hn, fun hw => ⟨fun hs => ?_, fun h => ?_⟩⟩
    · exact ⟨hy h, fun n hn => Settings.notice_announce (hy h ▸ hn), Player.summarizes_summary _,
        (notice_of_storable hk ha hc hq hp ho h.right).right⟩
    · by_contra h
      rw [hn h] at hs
      cases hs
    · rw [hy h, Settings.announce, if_pos hw]
      rfl

theorem arrives_cave (r : String) :
    (Player.fresh r (.minute 1)).Arrives .cave (.minute 2) (.ofIntent "1") := by
  have hn : "daylight" ≠ PlaceGraph.start := by decide
  exact ⟨.option 0, rfl, ⟨_, rfl⟩, [⟨.goto, "daylight"⟩], rfl, [], "daylight", [], rfl, hn, _, rfl, rfl⟩

theorem isStorable_cave :
    (Skill.Turn.take .cave (.minute 2) (.fresh "alice" (.minute 1)) (.ofIntent "1")).player.IsStorable :=
  .inr ⟨Store.hasRoomFor_alice, Skill.Turn.isCountable_take_fresh⟩

-- Alice starts, and leaves the cave.
theorem notified_cave :
    (((offering "story.json" .cave).run [.launch "alice" (.minute 1)]).answer
      (.say (.fresh "alice" (.minute 1)) "1" (.minute 2))).1.isSome := by
  have hg := PlaceGraph.wellFormed_cave
  have hs : ((offering "story.json" .cave).run [.launch "alice" (.minute 1)]).IsPlayable .cave .default :=
    isPlayable_launch hg (by decide)
  have hq : (Call.say (.fresh "alice" (.minute 1)) "1" (.minute 2)).skill? = some _ :=
    Call.skill?_say Player.isCountable_fresh
  obtain ⟨_, h⟩ := notified_iff (Definition.parse_render Definition.format_json hg) keeps_offering
    [.launch "alice" (.minute 1)] hs.adventure hs.config hq
  obtain ⟨_, h⟩ := h _ rfl
  obtain ⟨_, _, h⟩ := h (.fresh "alice" (.minute 1)) _
    (Store.restorePlayer_of_attributes (by decide) (by simp [Json.get?])) rfl
  exact (h hs.quiet).mpr ⟨arrives_cave "alice", isStorable_cave⟩

-- Somebody with a long name leaves it, and nobody learns of it.
theorem unnotified_longName :
    (offering "story.json" .cave).store.Keeps Player.IsCountable ∧
    (offering "story.json" .cave).adventure.2 = .ok .cave ∧
    (offering "story.json" .cave).store.settings = .ok .default ∧
    (Call.say (.fresh longName (.minute 1)) "1" (.minute 2)).skill? =
      some ⟨false, longName, [("player", (Player.fresh longName (.minute 1)).toJson)], .intent "1"⟩ ∧
    (offering "story.json" .cave).store.restorePlayer .cave (.minute 2) longName false
      [("player", (Player.fresh longName (.minute 1)).toJson)] = .ok (.fresh longName (.minute 1)) ∧
    (Player.fresh longName (.minute 1)).Arrives .cave (.minute 2) (.ofIntent "1") ∧
    ((offering "story.json" .cave).answer (.say (.fresh longName (.minute 1)) "1" (.minute 2))).1 = none := by
  have hs := isPlayable_offering PlaceGraph.wellFormed_cave
  have hq : (Call.say (.fresh longName (.minute 1)) "1" (.minute 2)).skill? = some _ :=
    Call.skill?_say Player.isCountable_fresh
  have ho : (offering "story.json" .cave).store.restorePlayer .cave (.minute 2) longName false
      [("player", (Player.fresh longName (.minute 1)).toJson)] = .ok (.fresh longName (.minute 1)) :=
    Store.restorePlayer_of_attributes (p := .fresh longName (.minute 1)) (by decide) (by simp [Json.get?])
  obtain ⟨hn, hr⟩ : longName ≠ "" ∧ ¬Store.HasRoomFor longName := Store.not_hasRoomFor_replicate (by decide)
  refine ⟨keeps_offering, hs.adventure, hs.config, hq, ho, arrives_cave longName, ?_⟩
  refine notice_of_unstorable keeps_offering hs.adventure hs.config hq rfl ho ?_
  rw [Player.IsStorable, Skill.Turn.recordId_take]
  exact not_or.mpr ⟨hn, fun h => hr h.left⟩

end Service
end Gamebook
