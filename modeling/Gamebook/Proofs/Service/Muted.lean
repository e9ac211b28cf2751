import Mathlib
import Gamebook.Proofs.Notice.Sent
import Gamebook.Proofs.Service.Answered
import Gamebook.Proofs.Store.Configured

namespace Gamebook

variable {s t : Service} {store store' a b : Store} {c : Call} {q : Skill.Request} {g : PlaceGraph}
  {settings quiet : Settings} {u : Skill.Turn} {p : Player} {url key : String}

theorem Store.held_keepPlayer_congr (hs : store.IsSetUp) (hs' : store'.IsSetUp)
    (h : ∀ r, store.held r = store'.held r) (ha : store.keepPlayer p = .ok a) (hb : store'.keepPlayer p = .ok b)
    (r : String) : a.held r = b.held r := by
  rw [keepPlayer] at ha hb
  split at ha
  case isTrue hi =>
    rw [if_pos hi] at hb
    cases ha
    cases hb
    exact h r
  case isFalse hi =>
    rw [if_neg hi] at hb
    by_cases hr : Slug.ofText r = Slug.ofText p.recordId
    case pos =>
      rw [held_congr hr, held_congr hr, (held_of_savePlayer hs ha).right, (held_of_savePlayer hs' hb).right]
    case neg =>
      rw [(savePlayer_onlyAt ha).held hs hr, (savePlayer_onlyAt hb).held hs' hr, h r]

theorem Settings.speak_congr {r : Response} (h : quiet .soundFilesUrl = settings .soundFilesUrl) :
    quiet.speak r = settings.speak r := by
  rw [speak, speak, h]

theorem Service.Voice.speak_congr (h : quiet .soundFilesUrl = settings .soundFilesUrl) :
    speak quiet u = speak settings u := by
  simp only [speak, Settings.speak_congr h]

namespace Service

-- Services that differ in what they do to make endings known. The second is quiet about them.
structure Muted (settings : Settings) (s t : Service) : Prop where
  setUp   : s.store.IsSetUp
  setUp'  : t.store.IsSetUp
  held    : ∀ r, s.store.held r = t.store.held r
  config  : s.store.settings = .ok settings
  config' : ∃ quiet, t.store.settings = .ok quiet ∧ (quiet .webhookUrl).isNothing ∧
    quiet .soundFilesUrl = settings .soundFilesUrl

theorem Voice.rendered_excuse {r : Except Notice.Fault Unit} {x : Except Fault Skill.Answer} :
    rendered (do excuse r; x) = if excuse r = .ok () then rendered x else .failure := by
  cases excuse r with
  | ok _    => rfl
  | error e => rfl

-- A player who cannot be written cannot be sent either.
theorem Voice.rendered_speak (h : ¬u.player.IsCountable) : rendered (speak settings u) = .failure := by
  cases hs : speak settings u with
  | error e => rfl
  | ok a =>
    obtain ⟨_, _, _, rfl⟩ := Skill.Turn.exists_of_speak hs
    rw [rendered_ok]
    exact if_neg fun hp => h (Skill.Answer.isPortable_toJson_iff.mp hp _ rfl)

-- Of what goes wrong with a notice, only that its key cannot be shown makes a difference.
theorem rendered_sent (hu : settings .webhookUrl = .str url) (hk : settings .webhookKey = .str key) :
    Voice.rendered (do Voice.excuse (s.sent settings u).2; Voice.speak settings u) =
        Voice.rendered (Voice.speak settings u) ↔
      Voice.rendered (Voice.speak settings u) = .failure ∨ (u.finishes → ¬Webhook.Chokes url key) := by
  rw [Voice.rendered_excuse]
  by_cases hc : u.player.IsCountable
  case neg => simp [Voice.rendered_speak hc]
  case pos =>
    have he := Settings.excuse_announce (d := s.delivery) hu hk hc
    rw [sent]
    by_cases hf : u.finishes
    case neg => simp [hf, Voice.excuse]
    case pos =>
      rw [if_pos hf]
      by_cases hn : Webhook.Chokes url key
      case pos =>
        rw [if_neg (mt he.mp (not_not.mpr hn))]
        simp [hn, hf, eq_comm]
      case neg =>
        rw [if_pos (he.mpr hn)]
        simp [hn]

namespace Muted

variable {plan : Skill.Plan} {o : Player}

theorem restorePlayer_eq (h : Muted settings s t) {now : Timestamp} {r : String} {new : Bool}
    {ms : List (String × Json)} : s.store.restorePlayer g now r new ms = t.store.restorePlayer g now r new ms :=
  Store.restorePlayer_congr fun _ => Store.player?_congr (h.held _)

theorem of_unrestored (h : Muted settings s t) (ha : s.adventure.2 = .ok g) (ha' : t.adventure.2 = .ok g)
    (hp : q.occasion.plan? = some plan) {e : Store.Fault}
    (ho : s.store.restorePlayer g c.now q.recordId q.isNew q.attributes = .error e) :
    (∀ r, (Voice.answer s c.now q).service.store.held r = (Voice.answer t c.now q).service.store.held r) ∧
    Voice.rendered (Voice.answer s c.now q).result = Voice.rendered (Voice.answer t c.now q).result := by
  obtain ⟨quiet, hq, _⟩ := h.config'
  rw [answer_of_unrestored ha h.config hp ho, answer_of_unrestored ha' hq hp (h.restorePlayer_eq ▸ ho)]
  exact ⟨fun r => by rw [store_adventure, store_adventure, h.held r], rfl⟩

-- What becomes of a turn when endings are made known, and when they are not.
theorem of_turn (h : Muted settings s t) (ha : s.adventure.2 = .ok g) (ha' : t.adventure.2 = .ok g)
    (hp : q.occasion.plan? = some plan)
    (ho : s.store.restorePlayer g c.now q.recordId q.isNew q.attributes = .ok o) :
    (∀ r, (Voice.answer s c.now q).service.store.held r = (Voice.answer t c.now q).service.store.held r) ∧
    ((∃ e e', (Voice.answer s c.now q).result = .error e ∧ (Voice.answer t c.now q).result = .error e') ∨
      (Voice.answer s c.now q).result =
        (do Voice.excuse (s.sent settings (.take g c.now o plan)).2; Voice.speak settings (.take g c.now o plan)) ∧
      (Voice.answer t c.now q).result = Voice.speak settings (.take g c.now o plan)) := by
  obtain ⟨quiet, hq, hw, hx⟩ := h.config'
  have ho' : t.store.restorePlayer g c.now q.recordId q.isNew q.attributes = .ok o := h.restorePlayer_eq ▸ ho
  rcases Store.keepPlayer_congr h.setUp h.setUp' (p := (Skill.Turn.take g c.now o plan).player) fun _ => h.held _ with
    ⟨e, hk, hk'⟩ | ⟨a, b, hk, hk', _⟩
  · rw [answer_of_unkept ha h.config hp ho hk, answer_of_unkept ha' hq hp ho' hk']
    exact ⟨fun r => by rw [store_adventure, store_adventure, h.held r], .inl ⟨_, _, rfl, rfl⟩⟩
  · rw [answer_of_kept ha h.config hp ho hk, answer_of_kept ha' hq hp ho' hk', sent_of_nothing hw]
    exact ⟨Store.held_keepPlayer_congr h.setUp h.setUp' h.held hk hk', .inr ⟨rfl, Voice.speak_congr hx⟩⟩

theorem failure_of_chokes (h : Muted settings s t) (ha : s.adventure.2 = .ok g) (ha' : t.adventure.2 = .ok g)
    (hu : settings .webhookUrl = .str url) (hk : settings .webhookKey = .str key) (hq : c.skill? = some q)
    (hp : q.occasion.plan? = some plan)
    (ho : s.store.restorePlayer g c.now q.recordId q.isNew q.attributes = .ok o)
    (hf : (Skill.Turn.take g c.now o plan).finishes) (hx : Webhook.Chokes url key) : (s.answer c).2 = .failure := by
  rw [reply_of_skill hq]
  obtain ⟨_, ⟨_, _, he, _⟩ | ⟨he, _⟩⟩ := h.of_turn ha ha' hp ho
  · rw [he, Voice.rendered_error]
  · rw [he, Voice.rendered_excuse]
    split
    case isFalse    => rfl
    case isTrue hok =>
      by_cases hc : (Skill.Turn.take g c.now o plan).player.IsCountable
      case neg => exact Voice.rendered_speak hc
      case pos =>
        rw [sent, if_pos hf] at hok
        exact absurd hx ((Settings.excuse_announce hu hk hc).mp hok)

end Muted

-- What makes endings known leaves turns as they are, unless the key for it cannot be shown: then
-- the player is stored all the same, and told nothing.
theorem muted_iff (h : Muted settings s t) (ha : s.adventure.2 = .ok g) (ha' : t.adventure.2 = .ok g)
    (hu : settings .webhookUrl = .str url) (hk : settings .webhookKey = .str key) (hq : c.skill? = some q) :
    (∀ r, (s.after c).store.held r = (t.after c).store.held r) ∧
    ((s.answer c).2 = (t.answer c).2 ↔ (t.answer c).2 = .failure ∨
      ∀ plan o, q.occasion.plan? = some plan →
        s.store.restorePlayer g c.now q.recordId q.isNew q.attributes = .ok o →
        (Skill.Turn.take g c.now o plan).finishes → ¬Webhook.Chokes url key) ∧
    ((s.answer c).2 = (t.answer c).2 ∨ (s.answer c).2 = .failure) := by
  rw [after_of_skill hq, after_of_skill hq, reply_of_skill hq, reply_of_skill hq]
  cases hp : q.occasion.plan? with
  | none =>
    -- What is no turn makes nothing known, and neither does one that nobody can be found for.
    have he : (Voice.answer s c.now q).result = (Voice.answer t c.now q).result := by
      rw [Voice.answer, Voice.answer, hp]
    refine ⟨fun r => ?_, iff_of_true (congrArg _ he) (.inr fun _ _ hp => by cases hp), .inl (congrArg _ he)⟩
    rw [Voice.answer, Voice.answer, hp]
    exact h.held r
  | some plan =>
    cases ho : s.store.restorePlayer g c.now q.recordId q.isNew q.attributes with
    | error e =>
      obtain ⟨held, he⟩ := h.of_unrestored ha ha' hp ho
      exact ⟨held, iff_of_true he (.inr fun _ _ _ ho => by cases ho), .inl he⟩
    | ok o =>
      obtain ⟨held, ⟨_, _, he, he'⟩ | ⟨he, he'⟩⟩ := h.of_turn ha ha' hp ho
      · rw [he, he']
        exact ⟨held, iff_of_true rfl (.inl rfl), .inl rfl⟩
      · rw [he, he']
        refine ⟨held, (rendered_sent hu hk).trans (or_congr_right (by simp)), ?_⟩
        rw [Voice.rendered_excuse]
        split
        case isTrue  => exact .inl rfl
        case isFalse => exact .inr rfl

end Service

-- Where endings are to be made known, and with which key.
def Webhook.changes (url key : String) : List (String × Json) :=
  [(Setting.webhookUrl.name, .str url), (Setting.webhookKey.name, .str key)]

def Call.announcing (url key : String) (now : Timestamp) : Call where
  now     := now
  request := ⟨"PATCH", "/api/settings", (Json.obj (Webhook.changes url key)).render⟩

namespace Service

theorem after_announcing {now : Timestamp}
    (h : s.store.updateSettings (Webhook.changes url key) = .ok (store, settings)) :
    s.after (.announcing url key now) = { s with store } := by
  have hc : "/api/settings".toList.all Http.isPlain := by cbv
  have hp : (Call.announcing url key now).request.place = "/api/settings" := Http.Request.place_eq_path hc
  have hr : Route.ofPlace? "/api/settings" = some .settings := by cbv
  have hj : (Json.obj (Webhook.changes url key)).Recoverable :=
    .obj (by simp [Webhook.changes, Json.Recoverable.str]) (by simp [Webhook.changes, Setting.name])
  have hb : Body.read Settings.changesOfJson (Json.obj (Webhook.changes url key)).render =
      .good (Webhook.changes url key) :=
    Body.read_render_obj hj rfl
  rw [after_of_patch rfl (hp ▸ hr), patchSettings]
  simp only [Call.announcing, hb, h]

-- A service from which endings begin to be made known is told apart by nothing else.
theorem muted_announcing {path : PathName} (h : t.Serving path g)
    (hn : Spot.ofPath path ≠ Spot.ofPath t.store.settingsPath)
    (hf : t.store.files.look t.store.settingsPath ≠ .folder) (hc : t.store.settings = .ok quiet)
    (hq : quiet.IsTextual) (hw : (quiet .webhookUrl).isNothing) (url key : String) (now : Timestamp) :
    Muted (quiet.update (Webhook.changes url key)) (t.after (.announcing url key now)) t ∧
      (t.after (.announcing url key now)).adventure.2 = .ok g := by
  have ht : (quiet.update (Webhook.changes url key)).IsSound :=
    (hq.update (by simp [Webhook.changes])).isSound
  obtain ⟨store, hs⟩ := Store.exists_saveSettings h.setUp hf ht
  have hu : t.store.updateSettings (Webhook.changes url key) =
      .ok (store, quiet.update (Webhook.changes url key)) := by
    rw [Store.updateSettings, hc, Chain.ok_bind]
    simp only [hs, Chain.ok_bind]
    rfl
  have hc' := Store.settings_of_saveSettings hs ht
  obtain ⟨_, u⟩ := Store.writeJson_eq_ok hs
  have hv : Serving { t with store } path g := by
    have hl := (congrArg Prod.snd (Definition.Cache.load_update u hn h.load)).trans h.load
    refine ⟨h.setUp.writeJson hs, ?_, hl⟩
    have hp := h.path
    rw [adventurePath] at hp ⊢
    split at hp
    case isTrue he  => rwa [if_pos he]
    case isFalse he =>
      rw [if_neg he, hc']
      rw [hc] at hp
      exact hp
  rw [after_announcing hu]
  exact ⟨⟨hv.setUp, h.setUp, fun r => Store.held_saveSettings h.setUp hs, hc', quiet, hc, hw, rfl⟩,
    congrArg Prod.snd hv.adventure⟩

end Service

theorem PlaceGraph.wellFormed_cave : cave.WellFormed :=
  ⟨by unfold Keyed; decide, by decide⟩

theorem PlaceGraph.isMeasured_cave : cave.IsMeasured := by
  simp [IsMeasured, cave, Ordered.values, Ordered.empty]

theorem Webhook.isReadable_hooks : ∃ u, Url.parse "http://hooks.local/done" = .ok u :=
  ⟨⟨"http", "", "hooks.local", none, "/done", none, none⟩, by decide +kernel⟩

-- The request with which Alice leaves the cave, as soon as she is there.
def Call.leave : Call :=
  Skill.Request.call ⟨true, "alice", [], .intent "1"⟩ .morning

theorem Call.skill?_leave : leave.skill? = some ⟨true, "alice", [], .intent "1"⟩ :=
  Skill.Request.skill?_call .empty _

namespace Service

theorem muted_offering (url key : String) :
    Muted (Settings.default.update (Webhook.changes url key))
      ((offering "story.json" .cave).after (.announcing url key .morning)) (offering "story.json" .cave) ∧
    ((offering "story.json" .cave).after (.announcing url key .morning)).adventure.2 = .ok .cave :=
  muted_announcing (serving_offering PlaceGraph.wellFormed_cave) (by decide)
    (fun h => Found.noConfusion (h : Found.nothing = Found.folder)) rfl Settings.isTextual_default (by decide) _ _ _

-- With a key of ASCII characters Alice does not notice that it becomes known.
theorem muted_leave :
    (((offering "story.json" .cave).after (.announcing "http://hooks.local/done" "key" .morning)).answer .leave).2 =
      ((offering "story.json" .cave).answer .leave).2 := by
  have hs := isPlayable_offering PlaceGraph.wellFormed_cave
  obtain ⟨hm, ha⟩ := muted_offering "http://hooks.local/done" "key"
  obtain ⟨_, h, _⟩ := muted_iff hm ha hs.adventure rfl rfl Call.skill?_leave
  exact h.mpr (.inr fun _ _ _ _ _ hx => hx.unshowable (by decide))

-- With an accent in it she gets no answer, though she would get one if it became known nowhere.
theorem choked_leave :
    ((offering "story.json" .cave).answer .leave).2.status = 200 ∧
    (((offering "story.json" .cave).after (.announcing "http://hooks.local/done" "clé" .morning)).answer .leave).2 =
      .failure ∧
    (((offering "story.json" .cave).after (.announcing "http://hooks.local/done" "clé" .morning)).answer .leave).2 ≠
      ((offering "story.json" .cave).answer .leave).2 := by
  have hs := isPlayable_offering PlaceGraph.wellFormed_cave
  obtain ⟨hm, ha⟩ := muted_offering "http://hooks.local/done" "clé"
  have ht : ((offering "story.json" .cave).answer .leave).2.status = 200 := by
    rw [status_of_turn keeps_offering hs.adventure hs.config hs.quiet Call.skill?_leave Store.hasRoomFor_alice rfl
      restorePlayer_offering]
    refine ⟨Skill.Turn.isCountable_take_fresh, ?_, .inl ⟨_, rfl⟩⟩
    exact (Skill.Turn.isMeasured_take PlaceGraph.isMeasured_cave).said
  have hx : (((offering "story.json" .cave).after
      (.announcing "http://hooks.local/done" "clé" .morning)).answer .leave).2 = .failure := by
    exact hm.failure_of_chokes ha hs.adventure rfl rfl Call.skill?_leave rfl
      (hm.restorePlayer_eq.trans restorePlayer_offering) rfl
      ⟨by decide, Webhook.isReadable_hooks, by decide⟩
  refine ⟨ht, hx, fun h => ?_⟩
  rw [hx] at h
  rw [← h] at ht
  cases ht

end Service
end Gamebook
