import Mathlib
import Gamebook.Proofs.Service.Progress

namespace Gamebook

variable {s : Service} {store : Store} {p : PathName} {g : PlaceGraph} {settings : Settings} {user r : String}
  {now : Timestamp} {c : Call} {calls : List Call} {plan : Skill.Plan} {q : Skill.Request}

namespace Service

-- The latest answer to a turn of a user.
def latest? (s : Service) (user : String) (calls : List Call) : Option Http.Reply :=
  (((s.answers id calls).filter (·.1.IsTurn user)).getLast?).map (·.2.2)

theorem latest?_concat :
    s.latest? user (calls ++ [c]) =
      if c.IsTurn user then some ((s.run calls).answer c).2 else s.latest? user calls := by
  rw [latest?, answers_concat, List.filter_append]
  split
  case isTrue h  => simp [h]
  case isFalse h => simp [h, latest?]

end Service

-- A turn in a new session, or one that is taken by the player who went along with the latest answer.
def Call.Continues (c : Call) (latest : Option Http.Reply) : Prop :=
  ∀ q, c.skill? = some q →
    q.isNew ∨ ∃ j, latest.bind Http.Reply.player? = some j ∧ Json.get? q.attributes "player" = some j

namespace Service

-- Calls in which a user takes one turn after the other, whatever others ask for in between.
inductive Sessions (s : Service) (user : String) : List Call → Prop
  | none : Sessions s user []
  | turn {calls : List Call} {c : Call} : Sessions s user calls → c.IsTurn user →
      c.Continues (s.latest? user calls) → Sessions s user (calls ++ [c])
  | other {calls : List Call} {c : Call} : Sessions s user calls → c.IsForeign user →
      Sessions s user (calls ++ [c])

-- A service on which turns can be taken, and which sends no notices.
structure IsPlayable (s : Service) (g : PlaceGraph) (settings : Settings) : Prop where
  setUp     : s.store.IsSetUp
  adventure : s.adventure.2 = .ok g
  config    : s.store.settings = .ok settings
  quiet     : (settings .webhookUrl).isNothing

-- The adventure of such a service is no player's file.
structure Hosts (s : Service) (p : PathName) (g : PlaceGraph) (settings : Settings) : Prop
    extends s.Serving p g where
  config : s.store.settings = .ok settings
  quiet  : (settings .webhookUrl).isNothing
  avoids : ∀ r, Spot.ofPath p ≠ s.store.playerSpot r

theorem Hosts.isPlayable (h : s.Hosts p g settings) : s.IsPlayable g settings where
  setUp     := h.setUp
  adventure := congrArg Prod.snd h.adventure
  config    := h.config
  quiet     := h.quiet

theorem Hosts.after (h : s.Hosts p g settings) (hc : c.concern ≠ .settings) : (s.after c).Hosts p g settings where
  toServing := h.turned after_turned hc fun r _ => h.avoids r
  config    := (after_turned.store.settings_eq hc h.setUp).trans h.config
  quiet     := h.quiet
  avoids r  := by
    rw [after_turned.store.playerSpot hc r]
    exact h.avoids r

-- What is kept of a user between two turns: nothing at first, and later the player who went along
-- with the latest answer, if it could be given.
inductive Keeps (s : Service) (user : String) : Option Http.Reply → Option Player → Prop
  | nothing : s.store.held user = .nothing → Keeps s user none none
  | player {o o' : Player} {r : Http.Reply} : o.Like o' → s.store.Holds o →
      (∀ j, r.player? = some j → j = o.toJson) → Keeps s user (some r) (some o')

theorem IsPlayable.hosts (h : s.IsPlayable g settings) (he : s.store.playerFiles = []) :
    ∃ p, s.Hosts p g settings := by
  have ha := h.adventure
  cases hp : s.adventurePath with
  | error e =>
    rw [Service.adventure, hp] at ha
    cases ha
  | ok p =>
    have hs := Serving.of_adventure h.setUp hp ha
    refine ⟨p, { hs with config := h.config, quiet := h.quiet, avoids := fun r hr => ?_ }⟩
    obtain ⟨content, stamp, hf⟩ := Definition.Cache.exists_status_of_load hs.load
    obtain ⟨_, hf⟩ := Files.status_eq_ok.mp hf
    rw [Spot.ofPath_toPath_ofPath, hr, Store.entry?_playerSpot_of_empty h.setUp he] at hf
    cases hf

namespace Keeps

variable {latest : Option Http.Reply} {o : Option Player}

theorem other (h : s.Keeps user latest o) (hs : s.store.IsSetUp) (ho : ∀ o', o = some o' → o'.recordId = user)
    (hc : c.IsForeign user) : (s.after c).Keeps user latest o := by
  have hh : (s.after c).store.held user = s.store.held user :=
    after_turned.store.held hc.not_settings hs hc.spares
  cases h with
  | nothing h        => exact .nothing (hh.trans h)
  | player hl h hr =>
    refine .player hl ?_ hr
    rw [Store.Holds, hl.recordId_eq.trans (ho _ rfl)] at h ⊢
    exact hh.trans h

theorem restore (h : s.Keeps user latest (g.progress? user calls)) (hg : g.WellFormed) (hu : user ≠ "")
    (hm : (Call.moves user calls).length < 10 ^ Numeral.digitLimit) (hc : c.Continues latest) (hq : c.skill? = some q) :
    ∃ o, s.store.restorePlayer g c.now user q.isNew q.attributes = .ok o ∧ o.Like (g.taker user calls c) := by
  rw [PlaceGraph.taker]
  generalize hp : g.progress? user calls = progress at h
  cases h with
  | nothing h =>
    rcases hc q hq with hn | ⟨j, hj, _⟩
    · exact ⟨_, hn ▸ Store.restorePlayer_of_nothing hu h, .refl _⟩
    · cases hj
  | player hl h hr =>
    rename_i o o' r
    have hi : o.recordId = user := hl.recordId_eq.trans (PlaceGraph.recordId_of_progress? hp)
    have hpl : g.contains o.placeId := hl.placeId_eq ▸ PlaceGraph.contains_of_progress? hg hp
    have hco : o.IsCountable := hl.isCountable_iff.mpr ((PlaceGraph.isCountable_of_progress? hp).mpr hm)
    cases hn : q.isNew with
    | true  => exact ⟨_, hi ▸ Store.restorePlayer_of_holds (hi ▸ hu) hpl hco h, hl.restored⟩
    | false =>
      obtain ⟨j, hj, ha⟩ := (hc q hq).resolve_left (hn ▸ Bool.false_ne_true)
      cases hr j hj
      exact ⟨_, hi ▸ Store.restorePlayer_of_attributes hpl ha, hl⟩

theorem held (h : s.Keeps user latest o) (ho : ∀ o', o = some o' → o'.recordId = user) :
    s.store.held user ≠ .refused ∧ s.store.held user ≠ .folder := by
  cases h with
  | nothing h        => exact h ▸ ⟨nofun, nofun⟩
  | player hl h hr =>
    rw [Store.Holds, hl.recordId_eq.trans (ho _ rfl)] at h
    exact h ▸ ⟨nofun, nofun⟩

end Keeps

-- What a turn comes to: the player after it is stored, and goes along with the answer if it can be
-- spoken.
structure Taken (s : Service) (settings : Settings) (g : PlaceGraph) (user : String) (calls : List Call) (c : Call)
    (plan : Skill.Plan) (o : Player) : Prop where
  like   : o.Like ((g.taker user calls c).follow g (plan.moves c.now))
  status : ∀ command r, plan.command = some command →
    Ply.outcome g ⟨⟨c.now, command⟩, g.taker user calls c⟩ = .ok r → o.status = .inProgress
  holds  : (s.after c).store.Holds o
  answer : ∀ j, (s.answer c).2.player? = some j ↔
    (Skill.Turn.take g c.now (g.taker user calls c) plan).IsAudible settings ∧ j = o.toJson

theorem Keeps.turn {latest : Option Http.Reply} (h : s.Keeps user latest (g.progress? user calls))
    (hs : s.IsPlayable g settings) (hg : g.WellFormed) (hm : g.IsMeasured) (hu : user ≠ "")
    (hn : (Call.moves user (calls ++ [c])).length < 10 ^ Numeral.digitLimit) (hp : c.plan? user = some plan)
    (hc : c.Continues latest) : ∃ o, s.Taken settings g user calls c plan o := by
  have ⟨q, hq, hr, hp'⟩ := Call.plan?_eq_some.mp hp
  cases hr
  have ⟨o, ho, hl⟩ := h.restore hg hu (Call.length_moves_le.trans_lt hn) hc hq
  obtain ⟨hl', hr, hr'⟩ :
      (Skill.Turn.take g c.now o plan).player.Like ((g.taker q.recordId calls c).follow g (plan.moves c.now)) ∧ _ :=
    Skill.Turn.take_like hl
  have hi : (Skill.Turn.take g c.now o plan).player.recordId = q.recordId :=
    Skill.Turn.recordId_take.trans (Store.recordId_restorePlayer ho)
  have hco : (Skill.Turn.take g c.now o plan).player.IsCountable :=
    hl'.isCountable_iff.mpr ((PlaceGraph.isCountable_of_progress? (PlaceGraph.progress?_concat hp)).mpr hn)
  have ⟨hn, hf⟩ := h.held fun _ => PlaceGraph.recordId_of_progress?
  have ⟨store, hk, hst⟩ := Store.keepPlayer_eq_ok hs.setUp (hi ▸ hu) hco (hi ▸ hn) (hi ▸ hf)
  have ⟨hs', ha⟩ := answer_of_quiet hs.adventure hs.config hp' ho hs.quiet hk
  refine ⟨_, hl', fun command r hc' ho' => Skill.Turn.status_take hl hc' ho', ?_, fun j => ?_⟩
  · rw [after_of_skill hq, hs']
    exact hst
  · rw [player?_of_speak hq ha (Skill.Turn.isMeasured_take hm) hco, Skill.Turn.isAudible_congr hr hr']

section

variable (h : s.Sessions user calls) (hh : s.Hosts p g settings) (hu : user ≠ "")
include h hh hu

theorem Sessions.hosts : (s.run calls).Hosts p g settings := by
  induction h with
  | none => exact hh
  | turn h ht hc hi =>
    rw [run_concat]
    have ⟨plan, hp⟩ := Call.isTurn_iff.mp ht
    exact hi.after (Call.concern_of_plan hu hp ▸ nofun)
  | other h hc hi =>
    rw [run_concat]
    exact hi.after hc.not_settings

theorem Sessions.keeps (hg : g.WellFormed) (hm : g.IsMeasured) (he : s.store.held user = .nothing)
    (hn : (Call.moves user calls).length < 10 ^ Numeral.digitLimit) :
    (s.run calls).Keeps user (s.latest? user calls) (g.progress? user calls) := by
  induction h with
  | none => exact .nothing he
  | turn h ht hc hi =>
    rename_i calls c
    have ⟨plan, hp⟩ := Call.isTurn_iff.mp ht
    have ⟨o, hl, _, ho, ha⟩ := (hi (Call.length_moves_le.trans_lt hn)).turn (h.hosts hh hu).isPlayable hg hm hu hn hp hc
    rw [run_concat, latest?_concat, if_pos ht, PlaceGraph.progress?_concat hp]
    exact .player hl ho fun j hj => ((ha j).mp hj).right
  | other h hc hi =>
    rename_i calls c
    have hp := hc.plan?_eq_none hu
    have ht : ¬c.IsTurn user := by simp [Call.IsTurn, hp]
    rw [run_concat, latest?_concat, if_neg ht, PlaceGraph.progress?_concat_of_none hp]
    have hi := hi (Call.length_moves_le.trans_lt hn)
    exact hi.other (h.hosts hh hu).setUp (fun _ => PlaceGraph.recordId_of_progress?) hc

end

theorem held_run {rest : List Call} (hs : s.store.IsSetUp) (h : ∀ x ∈ rest, x.IsForeign user) :
    (s.run rest).store.IsSetUp ∧ (s.run rest).store.held user = s.store.held user := by
  induction rest generalizing s with
  | nil => exact ⟨hs, rfl⟩
  | cons c rest hi =>
    have ⟨hc, h⟩ := List.forall_mem_cons.mp h
    have t := after_turned (s := s) (c := c)
    have ⟨hs', he⟩ := hi (t.store.isSetUp hc.not_settings hs) h
    exact ⟨hs', he.trans (t.store.held hc.not_settings hs hc.spares)⟩

-- A player who has made the moves that the turns of a user stand for, who goes along with the
-- answer to the last of them, and who is stored until the next.
structure Tracks (s : Service) (g : PlaceGraph) (user : String) (calls : List Call) (c : Call) (rest : List Call)
    (o : Player) : Prop where
  progress : ∃ o', g.progress? user (calls ++ [c]) = some o' ∧ o.Like o'
  answer   : ((s.run calls).answer c).2.player? = some o.toJson
  stored   : (s.run (calls ++ c :: rest)).store.player? user = .ok (some o.toJson)
  status   : ∀ plan command r, c.plan? user = some plan → plan.command = some command →
    Ply.outcome g ⟨⟨c.now, command⟩, g.taker user calls c⟩ = .ok r → o.status = .inProgress

theorem Tracks.hasRoomFor {rest : List Call} {o : Player} (h : s.Tracks g user calls c rest o)
    (hs : (s.run (calls ++ c :: rest)).store.IsSetUp) : Store.HasRoomFor user := by
  have hh := h.stored
  rw [Store.player?_eq] at hh
  refine Classical.byContradiction fun hn => ?_
  rw [(Store.held_eq_refused hs).mpr hn] at hh
  cases hh

theorem Tracks.recordId_eq {rest : List Call} {o : Player} (h : s.Tracks g user calls c rest o) : o.recordId = user := by
  have ⟨_, ho, hl⟩ := h.progress
  exact hl.recordId_eq.trans (PlaceGraph.recordId_of_progress? ho)

theorem Tracks.isCountable {rest : List Call} {o : Player} (h : s.Tracks g user calls c rest o)
    (hq : c.skill? = some q) : o.IsCountable := by
  have ⟨_, _, _, _, hc, he⟩ := (player?_answer hq).mp h.answer
  exact Player.isWritable_toJson_iff.mp (he ▸ Player.isWritable_toJson_iff.mpr hc)

theorem Tracks.length_moves {rest : List Call} {o : Player} (h : s.Tracks g user calls c rest o)
    (hq : c.skill? = some q) : (Call.moves user (calls ++ [c])).length < 10 ^ Numeral.digitLimit := by
  have ⟨_, ho, hl⟩ := h.progress
  exact (PlaceGraph.isCountable_of_progress? ho).mp (hl.isCountable_iff.mp (h.isCountable hq))

theorem Taken.tracks {rest : List Call} {o : Player} (h : (s.run calls).Taken settings g user calls c plan o)
    (hs : ((s.run calls).after c).store.IsSetUp) (hp : c.plan? user = some plan)
    (hn : (Call.moves user (calls ++ [c])).length < 10 ^ Numeral.digitLimit)
    (ha : (Skill.Turn.take g c.now (g.taker user calls c) plan).IsAudible settings)
    (hr : ∀ x ∈ rest, x.IsForeign user) : s.Tracks g user calls c rest o where
  progress := ⟨_, PlaceGraph.progress?_concat hp, h.like⟩
  answer   := (h.answer _).mpr ⟨ha, rfl⟩
  stored   := by
    have hp : g.progress? user (calls ++ [c]) = _ := PlaceGraph.progress?_concat hp
    have hi : o.recordId = user := h.like.recordId_eq.trans (PlaceGraph.recordId_of_progress? hp)
    have hc : o.IsCountable := h.like.isCountable_iff.mpr ((PlaceGraph.isCountable_of_progress? hp).mpr hn)
    have hh : ((s.run calls).after c).store.held o.recordId = _ := h.holds
    rw [run_append, run_cons, Store.player?_eq, (held_run hs hr).right, ← hi, hh, Found.read?_player hc]
  status plan' := by
    intro command r hp' hc ho
    cases hp.symm.trans hp'
    exact h.status command r hc ho

theorem service_play {t : Service} {reprompts : Bool} :
    (Voice.play t settings g now q { plan with reprompts }).service = (Voice.play t settings g now q plan).service := by
  rw [Voice.play, Voice.play]
  split
  case h_1 => rfl
  case h_2 o _ =>
    have ht : (Skill.Turn.take g now o { plan with reprompts }).player = (Skill.Turn.take g now o plan).player := rfl
    rw [Voice.finish, Voice.finish, ht]
    split <;> rfl

theorem exists_error_of_refused (h : s.Serving p g) (hu : q.recordId ≠ "") (hr : s.store.held q.recordId = .refused)
    (hp : q.occasion.plan? = some plan) :
    (Voice.answer s now q).service.store = s.store ∧ ∃ e, (Voice.answer s now q).result = .error e := by
  rw [Voice.answer, hp]
  simp only [Voice.begin]
  split
  case h_1 => exact ⟨rfl, _, rfl⟩
  case h_2 settings _ =>
    simp only [h.adventure, Voice.play]
    split
    case h_1 => exact ⟨rfl, _, rfl⟩
    case h_2 o ho =>
      have hi : (Skill.Turn.take g now o plan).player.recordId = q.recordId :=
        Skill.Turn.recordId_take.trans (Store.recordId_restorePlayer ho)
      obtain ⟨e, hk⟩ := Store.keepPlayer_of_refused h.setUp (hi ▸ hu) (hi ▸ hr)
      simp only [Voice.finish, hk]
      exact ⟨trivial, _, rfl⟩

theorem Serving.answer_of_refused (h : s.Serving p g) (hu : user ≠ "") (hr : ¬Store.HasRoomFor user)
    (hp : c.plan? user = some plan) : (s.answer c).2 = .failure ∧ (s.after c).store = s.store := by
  have ⟨q, hq, hi, hp'⟩ := Call.plan?_eq_some.mp hp
  cases hi
  obtain ⟨hs, e, he⟩ : (Voice.answer s c.now q).service.store = s.store ∧ _ :=
    exists_error_of_refused h hu ((Store.held_eq_refused h.setUp).mpr hr) hp'
  rw [after_of_skill hq, answer, handle_of_skill hq, he]
  exact ⟨rfl, hs⟩

end Service

namespace Call

variable {o : Player} {intent : String} {latest : Option Http.Reply} {now : Timestamp}

theorem continues_launch : (launch user now).Continues latest := by
  intro q hq
  cases skill?_launch.symm.trans hq
  exact .inl rfl

theorem continues_say (h : o.IsCountable)
    (hl : latest.bind Http.Reply.player? = some o.toJson) : (say o intent now).Continues latest := by
  intro q hq
  cases (skill?_say h).symm.trans hq
  exact .inr ⟨_, hl, rfl⟩

end Call

namespace Service

theorem isPlayable_offering (hg : g.WellFormed) : (offering "story.json" g).IsPlayable g .default where
  setUp     := (serving_offering hg).setUp
  adventure := congrArg Prod.snd (serving_offering hg).adventure
  config    := rfl
  quiet     := by decide

def longName : String :=
  String.ofList (List.replicate 251 'a')

end Service
end Gamebook
