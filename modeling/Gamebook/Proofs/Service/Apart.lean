import Mathlib
import Gamebook.Proofs.Service.Sessions

namespace Gamebook

variable {k : Concern} {s t : Service} {p : PathName} {g : PlaceGraph} {r : String}
  {now : Timestamp} {settings : Settings}

namespace Service

-- Outcomes that are the same to whoever a request concerns.
structure Outcome.Same (k : Concern) (o u : Outcome α) : Prop where
  notice : o.notice = u.notice
  result : o.result = u.result
  held   : ∀ r, k = .player r → o.service.store.held r = u.service.store.held r

-- Services that a request which is somebody's concern cannot tell apart.
structure Alike (k : Concern) (s t : Service) : Prop where
  delivery : s.delivery = t.delivery
  held     : ∀ r, k = .player r → s.store.held r = t.store.held r

theorem Alike.same {notice : Option Notice} {result : Except Fault α} (h : s.Alike k t) :
    Outcome.Same k ⟨s, notice, result⟩ ⟨t, notice, result⟩ :=
  ⟨rfl, rfl, h.held⟩

section

variable (hs : s.store.IsSetUp) (ht : t.store.IsSetUp)
include hs ht

theorem play_same {q : Skill.Request} {plan : Skill.Plan} (hq : q.occasion.plan? = some plan)
    (h : s.Alike (.ofSkill q) t) :
    (Voice.play s settings g now q plan).Same (.ofSkill q) (Voice.play t settings g now q plan) := by
  have hk (hr : q.recordId ≠ "") : Concern.ofSkill q = .player q.recordId := by
    simp [Concern.ofSkill, hr, hq]
  have hh (hr : q.recordId ≠ "") := h.held q.recordId (hk hr)
  rw [Voice.play, Voice.play, Store.restorePlayer_congr fun hr => Store.player?_congr (hh hr)]
  split
  case h_1 => exact h.same
  case h_2 q' hp =>
    have hr : (Skill.Turn.take g now q' plan).player.recordId = q.recordId :=
      Skill.Turn.recordId_take.trans (Store.recordId_restorePlayer hp)
    rw [Voice.finish, Voice.finish]
    rcases Store.keepPlayer_congr hs ht (hr ▸ hh) with ⟨e, ha, hb⟩ | ⟨a, b, ha, hb, hab⟩
    · rw [ha, hb]
      exact h.same
    · rw [ha, hb]
      simp only [h.delivery]
      refine ⟨rfl, rfl, fun r hk => ?_⟩
      rw [Concern.ofSkill] at hk
      split at hk
      case isTrue => cases hk
      case isFalse hn =>
        cases hk
        have hn : q.recordId ≠ "" := by
          intro he
          simp [he] at hn
        exact hr ▸ hab (hr ▸ hn)

theorem answer_same (hg : s.adventure.2 = .ok g) (hg' : t.adventure.2 = .ok g)
    (hst : s.store.settings = t.store.settings) {q : Skill.Request} (h : s.Alike (.ofSkill q) t) :
    (Voice.answer s now q).Same (.ofSkill q) (Voice.answer t now q) := by
  rw [Voice.answer, Voice.answer]
  split
  case h_2 => exact h.same
  case h_1 plan hq =>
    have ha : s.adventure = (s.adventure.1, .ok g) := Prod.ext rfl hg
    have hb : t.adventure = (t.adventure.1, .ok g) := Prod.ext rfl hg'
    have ta := adventure_turned (s := s)
    have tb := adventure_turned (s := t)
    have hsa : s.adventure.1.store = s.store := ta.store
    have htb : t.adventure.1.store = t.store := tb.store
    rw [Voice.begin, Voice.begin, hst]
    split
    case h_1 => exact h.same
    case h_2 settings _ =>
      rw [ha, hb]
      refine play_same (hsa ▸ hs) (htb ▸ ht) hq ⟨?_, ?_⟩
      · rw [ta.delivery, tb.delivery, h.delivery]
      · rw [hsa, htb]
        exact h.held

end

theorem deletePlayer_same (h : s.Alike (.player r) t) :
    (deletePlayer s r).Same (.player r) (deletePlayer t r) := by
  have hm : (s.store.deletePlayer r).map (fun d => (d.1.held r, d.2)) =
      (t.store.deletePlayer r).map (fun d => (d.1.held r, d.2)) := by
    rw [Store.held_deletePlayer, Store.held_deletePlayer, h.held r rfl]
  rw [deletePlayer, deletePlayer]
  rcases Chain.cases_of_map_eq hm with ⟨e, ha, hb⟩ | ⟨⟨a, x⟩, ⟨b, y⟩, ha, hb, hab⟩
  · rw [ha, hb]
    exact h.same
  · obtain ⟨hab, hxy⟩ := Prod.mk.inj hab
    cases hxy
    rw [ha, hb]
    have hh : ∀ r', Concern.player r = .player r' → a.held r' = b.held r' := by
      rintro _ ⟨⟩
      exact hab
    cases x
    case false => exact ⟨rfl, rfl, hh⟩
    case true  => exact ⟨rfl, rfl, hh⟩

-- What a request that concerns one player at most depends on, and what it comes to.
theorem follow_same (hs : s.Serving p g) (ht : t.Serving p g) (hst : s.store.settings = t.store.settings)
    {q : Http.Request} {route : Route} (hk : (Concern.ofRoute q route).IsPrivate)
    (h : s.Alike (.ofRoute q route) t) :
    (s.follow now q route).Same (.ofRoute q route) (t.follow now q route) := by
  have hg : s.adventure.2 = .ok g := by rw [hs.adventure]
  have hg' : t.adventure.2 = .ok g := by rw [ht.adventure]
  unfold follow
  split
  case h_1 => exact h.same
  case h_2 =>
    rw [hst]
    exact h.same
  case h_3 hm => exact absurd (if_pos hm) hk.right
  case h_4 =>
    rw [getAdventure, getAdventure, hs.adventure, ht.adventure]
    exact ⟨rfl, rfl, fun _ h => absurd h Concern.nobody_ne_player⟩
  case h_5 hm => exact absurd (if_pos hm) hk.left
  case h_6 id hm =>
    have hr : Concern.ofRoute q (.player id) = .player id := by simp [Concern.ofRoute, hm]
    rw [getPlayer, getPlayer, Store.player?_congr (h.held id hr)]
    exact h.same
  case h_7 id hm =>
    have hr : Concern.ofRoute q (.player id) = .player id := by simp [Concern.ofRoute, hm]
    rw [hr] at h ⊢
    exact deletePlayer_same h
  case h_8 hm =>
    have hr : Concern.ofRoute q .skill = _ := if_pos hm
    rw [hr] at h ⊢
    rw [postSkill, postSkill]
    cases hb : Body.read Skill.Request.ofJson q.body
    case unfit      => exact ⟨rfl, rfl, fun _ h => absurd h Concern.nobody_ne_player⟩
    case unreadable => exact ⟨rfl, rfl, fun _ h => absurd h Concern.nobody_ne_player⟩
    case good q' =>
      rw [hb] at h
      have ho : (Voice.answer s now q').Same (.ofSkill q') (Voice.answer t now q') :=
        answer_same hs.setUp ht.setUp hg hg' hst h
      exact ⟨ho.notice, congrArg (fun r => do reply (← r).toJson) ho.result, ho.held⟩
  case h_9 => exact h.same

theorem answer_eq_and_held (hs : s.Serving p g) (ht : t.Serving p g)
    (hst : s.store.settings = t.store.settings) {c : Call} (hk : c.concern.IsPrivate)
    (h : s.Alike c.concern t) :
    s.answer c = t.answer c ∧
      ∀ r, c.concern = .player r → (s.after c).store.held r = (t.after c).store.held r := by
  simp only [answer, after, handle, Call.concern] at *
  cases hr : Route.ofPlace? c.request.place with
  | none       => exact ⟨rfl, fun _ h => absurd h Concern.nobody_ne_player⟩
  | some route =>
    rw [hr] at hk h
    have ho : (s.follow c.now c.request route).Same (.ofRoute c.request route) (t.follow c.now c.request route) :=
      follow_same hs ht hst hk h
    exact ⟨by simp only [ho.notice, ho.result], ho.held⟩

-- Two services between which the players in question see no difference.
structure Paired (mine : String → Prop) (s t : Service) : Prop where
  settings : s.store.settings = t.store.settings
  delivery : s.delivery = t.delivery
  spot     : ∀ r, s.store.playerSpot r = t.store.playerSpot r
  held     : ∀ r, mine r → s.store.held r = t.store.held r

namespace Paired

variable {mine : String → Prop} {c : Call}

-- A request of one of these players is answered alike, and leads to no difference.
theorem step (h : Paired mine s t) (hs : s.Serving p g) (ht : t.Serving p g)
    (hk : c.concern.IsPrivate)
    (hm : ∀ r, c.concern = .player r → mine r) :
    s.answer c = t.answer c ∧ Paired mine (s.after c) (t.after c) := by
  have ⟨ha, hh⟩ := answer_eq_and_held hs ht h.settings hk ⟨h.delivery, fun r hr => h.held r (hm r hr)⟩
  have us := after_turned (s := s) (c := c)
  have ut := after_turned (s := t) (c := c)
  refine ⟨ha, ?_, ?_, ?_, ?_⟩
  · rw [us.store.settings_eq hk.right hs.setUp, ut.store.settings_eq hk.right ht.setUp, h.settings]
  · rw [us.delivery, ut.delivery, h.delivery]
  · intro r
    rw [us.store.playerSpot hk.right, ut.store.playerSpot hk.right, h.spot r]
  · intro r hr
    by_cases hp : c.concern.Spares r
    case pos =>
      rw [us.store.held hk.right hs.setUp hp, ut.store.held hk.right ht.setUp hp, h.held r hr]
    case neg =>
      -- The request concerns somebody who is stored under the same name.
      simp only [Concern.Spares, not_forall, not_not] at hp
      have ⟨r', hc, he⟩ := hp
      rw [Store.held_congr he, Store.held_congr he, hh r' hc]

-- A request of anyone else makes no difference.
theorem skip (h : Paired mine s t) (hs : s.Serving p g) (hk : c.concern.IsPrivate)
    (hm : ∀ r, mine r → c.concern.Spares r) : Paired mine (s.after c) t := by
  have us := after_turned (s := s) (c := c)
  refine ⟨?_, ?_, ?_, ?_⟩
  · rw [us.store.settings_eq hk.right hs.setUp, h.settings]
  · rw [us.delivery, h.delivery]
  · intro r
    rw [us.store.playerSpot hk.right, h.spot r]
  · intro r hr
    rw [us.store.held hk.right hs.setUp (hm r hr), h.held r hr]

end Paired

section

variable {mine : String → Prop} {α : Type} {call : α → Call} {isMine : α → Bool} {xs : List α}

theorem Paired.answers_filter (h : Paired mine s t) (hs : s.Serving p g) (ht : t.Serving p g)
    (hk : ∀ x ∈ xs, (call x).concern.IsPrivate)
    (hp : ∀ x ∈ xs, (call x).concern.Avoids s.store p)
    (hm : ∀ x ∈ xs, isMine x → ∀ r, (call x).concern = .player r → mine r)
    (ho : ∀ x ∈ xs, ¬isMine x → ∀ r, mine r → (call x).concern.Spares r) :
    (s.answers call xs).filter (isMine ·.1) = t.answers call (xs.filter isMine) := by
  induction xs generalizing s t with
  | nil => rfl
  | cons x xs hi =>
    simp only [List.forall_mem_cons] at hk hp hm ho
    have us := after_turned (s := s) (c := call x)
    have hs' := hs.turned us hk.left.right hp.left
    have hp' : ∀ x' ∈ xs, (call x').concern.Avoids (s.after (call x)).store p :=
      fun x' hx r hr => us.store.playerSpot hk.left.right r ▸ hp.right x' hx r hr
    by_cases hx : isMine x
    case pos =>
      have ⟨ha, h'⟩ := h.step hs ht hk.left (hm.left hx)
      have ht' : (t.after (call x)).Serving p g :=
        ht.turned after_turned hk.left.right fun r hr => h.spot r ▸ hp.left r hr
      simp only [answers, List.filter_cons, hx, if_true, ha, hi h' hs' ht' hk.right hp' hm.right ho.right]
    case neg =>
      have h' := h.skip hs hk.left (ho.left hx)
      simp only [answers, List.filter_cons, hx, Bool.false_eq_true, if_false, hi h' hs' ht hk.right hp' hm.right ho.right]

-- However the requests of some are mixed with those of others, they are answered as if there were
-- no others, and those that are nobody's concern neither read nor change what is stored of players.
theorem players_apart (hs : s.store.IsSetUp) (hp : s.adventurePath = .ok p) (hg : s.adventure.2 = .ok g)
    (hk : ∀ x ∈ xs, (call x).concern.IsPrivate) (hv : ∀ x ∈ xs, (call x).concern.Avoids s.store p)
    (ha : ∀ x ∈ xs, ∀ y ∈ xs, isMine x → ¬isMine y → (call x).concern.Apart (call y).concern) :
    (s.answers call xs).filter (isMine ·.1) = s.answers call (xs.filter isMine) ∧
    ∀ x ∈ xs, (call x).concern = .nobody →
      (∀ t : Service, (t.after (call x)).store = t.store) ∧
      ∀ t u : Service, t.Serving p g → u.Serving p g → t.store.settings = u.store.settings → t.delivery = u.delivery →
        t.answer (call x) = u.answer (call x) := by
  have hs := Serving.of_adventure hs hp hg
  refine ⟨?_, fun x hx hn => ⟨fun t => ?_, fun t u ht hu hst hd => ?_⟩⟩
  · have h : Paired (fun r => ∃ x ∈ xs, isMine x ∧ (call x).concern = .player r) s s :=
      ⟨rfl, rfl, fun _ => rfl, fun _ _ => rfl⟩
    refine h.answers_filter hs hs hk hv (fun x hx hm r hr => ⟨x, hx, hm, hr⟩) ?_
    intro y hy hn r ⟨x, hx, hm, hr⟩
    exact ha x hx y hy hm hn r hr
  · have ht : Concern.Allows .nobody t.store (t.after (call x)).store := hn ▸ after_turned.store
    exact ht
  · refine (answer_eq_and_held ht hu hst (hk x hx) ⟨hd, fun r hr => ?_⟩).left
    cases hn.symm.trans hr

end

end Service

-- Bob is forgotten.
def Call.forgetBob : Call :=
  ⟨.morning, ⟨"DELETE", "/api/players/bob", ""⟩⟩

theorem Call.route_forgetBob : Service.Route.ofPlace? forgetBob.request.place = some (.player "bob") := by
  have hc : "/api/players/bob".toList.all Http.isPlain := by cbv
  have hp : forgetBob.request.place = "/api/players/bob" := Http.Request.place_eq_path hc
  rw [hp]
  cbv

namespace Service

-- What two players and somebody without a name ask for. The requests of the first are marked.
def errands : List (Bool × Call) := [
  (true, .launch "alice" .morning), (false, .launch "bob" .morning), (false, .launch "" .morning),
  (false, .forgetBob), (true, .launch "alice" .morning)
]

theorem players_apart_errands :
    ((offering "story.json" .crossing).answers Prod.snd errands).filter (·.1.1) =
      (offering "story.json" .crossing).answers Prod.snd
        [(true, .launch "alice" .morning), (true, .launch "alice" .morning)] ∧
    ((offering "story.json" .crossing).after (.launch "" .morning)).store = (offering "story.json" .crossing).store := by
  have hs : (offering "story.json" .crossing).Serving (.ofText "story.json") .crossing :=
    serving_offering PlaceGraph.wellFormed_crossing
  have ha : (Call.launch "alice" .morning).concern = .player "alice" := Call.concern_of_plan (by simp) Call.plan?_launch
  have hb : (Call.launch "bob" .morning).concern = .player "bob" := Call.concern_of_plan (by simp) Call.plan?_launch
  have hn : (Call.launch "" .morning).concern = .nobody := Call.concern_of_skill Call.skill?_launch
  have hf : Call.forgetBob.concern = .player "bob" := Call.concern_of_player (.inr rfl) Call.route_forgetBob
  have hp (r : String) : Spot.ofPath (.ofText "story.json") ≠ (offering "story.json" .crossing).store.playerSpot r := by
    intro h
    have h := congrArg (·.names.length) h
    rw [Store.names_playerSpot, Store.names_playersFolder] at h
    simp [show (Spot.ofPath (.ofText "story.json")).names = ["story.json"] from rfl] at h
  have hk : ∀ x ∈ errands, x.2.concern.IsPrivate := by
    simp [errands, ha, hb, hn, hf, Concern.IsPrivate]
  have hv : ∀ x ∈ errands, x.2.concern.Avoids (offering "story.json" .crossing).store (.ofText "story.json") :=
    fun _ _ r _ => hp r
  have hx : ∀ x ∈ errands, ∀ y ∈ errands, x.1 → ¬y.1 → x.2.concern.Apart y.2.concern := by
    simp [errands, ha, hb, hn, hf, Concern.Apart, Concern.Spares, Slug.ofText_alice, Slug.ofText_bob]
  have ⟨h, h'⟩ := players_apart hs.setUp hs.path (congrArg Prod.snd hs.adventure) hk hv hx
  exact ⟨h, (h' (false, .launch "" .morning) (by simp [errands]) hn).left _⟩

-- Whoever forgets Bob takes the adventure from all players, if it is in his place.
theorem forgetBob_takes_all :
    (offering "data/players/bob.json" .crossing).IsPlayable .crossing .default ∧
    Call.forgetBob.concern = .player "bob" ∧ (Call.launch "alice" .morning).concern = .player "alice" ∧
    Slug.ofText "alice" ≠ Slug.ofText "bob" ∧
    ((offering "data/players/bob.json" .crossing).answers Prod.snd
      [(false, .forgetBob), (true, .launch "alice" .morning)]).filter (·.1.1) ≠
      (offering "data/players/bob.json" .crossing).answers Prod.snd [(true, .launch "alice" .morning)] := by
  have hg := PlaceGraph.wellFormed_crossing
  have hn : Slug.ofText "alice" ≠ Slug.ofText "bob" := by
    rw [Slug.ofText_alice, Slug.ofText_bob]
    decide
  have hl : (offering "data/players/bob.json" .crossing).Serving (.ofText "data/players/bob.json") .crossing :=
    ⟨⟨rfl, rfl⟩, rfl, Definition.Cache.load_of_look rfl rfl rfl hg⟩
  have hs : (offering "data/players/bob.json" .crossing).IsPlayable .crossing .default :=
    ⟨hl.setUp, congrArg Prod.snd hl.adventure, rfl, by decide⟩
  have hp : (Call.launch "alice" .morning).plan? "alice" = some _ := Call.plan?_launch
  refine ⟨hs, Call.concern_of_player (.inr rfl) Call.route_forgetBob, Call.concern_of_plan (by simp) hp, hn, fun h => ?_⟩
  have hh : (offering "data/players/bob.json" .crossing).store.held "alice" = .nothing := by
    rw [Store.held, Store.playerPath, Slug.ofText_alice]
    rfl
  obtain ⟨o, t⟩ : ∃ o, (offering "data/players/bob.json" .crossing).Taken .default .crossing "alice" []
      (.launch "alice" .morning) _ o :=
    Keeps.turn (.nothing hh) hs hg PlaceGraph.isMeasured_crossing (by simp) (Call.moves_lt (by decide)) hp
      Call.continues_launch
  have hj := (t.answer _).mpr ⟨.inl ⟨"", rfl⟩, rfl⟩
  have hd : ((offering "data/players/bob.json" .crossing).after .forgetBob).adventure.2 = .error (.load (.file .missing)) ∧
      ((offering "data/players/bob.json" .crossing).after .forgetBob).store.settings = .ok .default := by
    rw [after_of_delete rfl Call.route_forgetBob, deletePlayer, Store.deletePlayer, Store.playerPath, Slug.ofText_bob]
    exact ⟨rfl, rfl⟩
  have he : ((offering "data/players/bob.json" .crossing).after .forgetBob).answer (.launch "alice" .morning) =
      (offering "data/players/bob.json" .crossing).answer (.launch "alice" .morning) := by
    simpa [answers] using h
  rw [← he, player?_answer Call.skill?_launch] at hj
  obtain ⟨a, _, hr, hp, _⟩ := hj
  rw [result_of_excused hd.left rfl hd.right rfl] at hr
  cases hr
  cases hp

end Service
end Gamebook
