import Mathlib
import Gamebook.Proofs.Definition.Loading
import Gamebook.Proofs.Service.Replies
import Gamebook.Proofs.Service.Serving

namespace Gamebook

-- Is a player told that the adventure could not be loaded?
def Http.Reply.IsApology (r : Reply) : Prop :=
  r = ⟨200, .json Service.Voice.apology.toJson⟩

theorem Http.not_isApology_failure : ¬Reply.failure.IsApology :=
  nofun

-- The request of somebody who wants to see the adventure.
def Call.look (now : Timestamp) : Call where
  now     := now
  request := ⟨"GET", "/api/adventure", ""⟩

theorem Call.place_look {now : Timestamp} : Service.Route.ofPlace? (look now).request.place = some .adventure := by
  have hc : "/api/adventure".toList.all Http.isPlain := by cbv
  have hp : (look now).request.place = "/api/adventure" := Http.Request.place_eq_path hc
  have hr : Service.Route.ofPlace? "/api/adventure" = some .adventure := by cbv
  rw [hp, hr]

namespace Service

variable {s : Service} {c d : Call} {q : Skill.Request} {plan : Skill.Plan} {g : PlaceGraph} {settings : Settings}
  {now : Timestamp}

theorem adventure_eq :
    s.adventure.2 = s.adventurePath >>= fun p => (s.cache.load s.store.files p).2.mapError .load := by
  rw [adventure]
  cases s.adventurePath <;> rfl

-- What comes back to those who want to see the adventure.
def shown : Except Fault PlaceGraph → Http.Reply
  | .ok g    => ⟨200, .json (Definition.dump g)⟩
  | .error e => match adventureProblem e with
    | .ok r    => r
    | .error _ => .failure

theorem reply_of_adventure (hm : d.request.method = "GET") (hr : Route.ofPlace? d.request.place = some .adventure) :
    (s.answer d).2 = shown s.adventure.2 := by
  have hf : s.follow d.now d.request .adventure = getAdventure s := by
    unfold follow
    split <;> simp_all
  rw [answer, handle, hr]
  dsimp only
  rewrite [hf, getAdventure]
  obtain ⟨t, e | g⟩ := s.adventure
  · rfl
  · have hg : (Definition.dump g).IsPortable := (Definition.textual_dump g).isPortable
    simp only [reply, if_pos hg, shown]

theorem player?_of_play {a : Skill.Answer} (h : (Voice.play s settings g now q plan).result = .ok a) :
    a.player?.isSome := by
  rw [Voice.play] at h
  split at h
  case h_1 => cases h
  case h_2 =>
    rw [Voice.finish] at h
    split at h
    case h_1 => cases h
    case h_2 =>
      obtain ⟨_, _, h⟩ := Chain.bind_eq_ok.mp h
      obtain ⟨_, _, _, rfl⟩ := Skill.Turn.exists_of_speak h
      rfl

-- Players go along with every turn, but not with the apology.
theorem not_isApology_of_loaded (hc : c.skill? = some q) (hp : q.occasion.plan? = some plan)
    (hs : s.store.settings = .ok settings) (ha : s.adventure.2 = .ok g) : ¬(s.answer c).2.IsApology := by
  intro h
  have hn : (s.answer c).2.player? = none := h ▸ rfl
  have h : (s.answer c).2.status = 200 := by rw [h]
  have ⟨a, hr, hf⟩ := (status_answer hc).mp h
  have ⟨p, hp⟩ := Option.isSome_iff_exists.mp (player?_of_play (answer_eq_play ha hs hp ▸ hr))
  cases hn.symm.trans ((player?_answer hc).mpr ⟨a, p, hr, hp, hf p hp, rfl⟩)

-- Who cannot take a turn because the adventure could not be loaded is told so.
theorem isApology_iff (hc : c.skill? = some q) (hp : q.occasion.plan? = some plan) :
    (s.answer c).2.IsApology ↔
      (∃ settings, s.store.settings = .ok settings) ∧ ∃ e, s.adventure.2 = .error e ∧ Voice.isExcused e := by
  cases hs : s.store.settings with
  | error e =>
    rw [reply_of_skill hc, Voice.answer, hp]
    simp only [Voice.begin, hs]
    refine iff_of_false Http.not_isApology_failure ?_
    rintro ⟨⟨_, ⟨⟩⟩, _⟩
  | ok settings =>
    rw [and_iff_right ⟨settings, rfl⟩]
    cases ha : s.adventure.2 with
    | ok g    =>
      refine iff_of_false (not_isApology_of_loaded hc hp hs ha) ?_
      rintro ⟨_, ⟨⟩, _⟩
    | error e =>
      rw [reply_of_skill hc, answer_of_unloaded ha hs hp]
      by_cases he : Voice.isExcused e
      case pos =>
        rw [if_pos he, Voice.rendered_ok, if_pos (by decide)]
        exact iff_of_true rfl ⟨e, rfl, he⟩
      case neg =>
        rw [if_neg he]
        refine iff_of_false Http.not_isApology_failure ?_
        rintro ⟨_, ⟨⟩, h⟩
        exact he h

-- Where the adventure should be is a folder, or something on the way there is none.
def Barred (s : Service) : Prop :=
  ∃ p, s.adventurePath = .ok p ∧ s.store.files.Bars p

-- It cannot be said where the adventure is, or what is wrong with it.
def Baffled (s : Service) : Prop :=
  (∃ e, s.adventurePath = .error e) ∨
    ∃ p, s.adventurePath = .ok p ∧ (¬Files.isFit p ∨ s.cache.Baffles s.store.files p)

theorem adventurePath_eq_error {e : Fault} (h : s.adventurePath = .error e) :
    (∃ f, e = .store f) ∨ e = .adventureName := by
  rw [adventurePath] at h
  split at h
  case isTrue  => cases h
  case isFalse =>
    rcases Chain.bind_eq_error.mp h with h | ⟨settings, _, h⟩
    · generalize s.store.settings = r at h
      cases r <;> cases h
      exact .inl ⟨_, rfl⟩
    · split at h <;> cases h
      exact .inr rfl

attribute [local simp] Except.mapError shown adventureProblem Http.Reply.failure Http.Reply.detail Voice.isExcused
  Definition.LoadError.IsTold in
-- What the two who load the adventure make of its path and of what is found there.
theorem shown_cases :
    ((∃ e, s.adventure.2 = .error e ∧ Voice.isExcused e) ↔
      (shown s.adventure.2).status = 404 ∨ (shown s.adventure.2).status = 422 ∨ s.Barred) ∧
    ((shown s.adventure.2).status = 500 ↔ s.Barred ∨ s.Baffled) := by
  rw [Barred, Baffled, adventure_eq]
  cases hp : s.adventurePath with
  | error e =>
    obtain ⟨f, rfl⟩ | rfl := adventurePath_eq_error hp <;> simp
  | ok p    =>
    have hf : ¬Files.isFit p ↔ (s.cache.load s.store.files p).2 = .error (.file .unfitName) :=
      Definition.Cache.not_isFit_iff
    simp only [Except.ok.injEq, exists_eq_left', Definition.Cache.bars_iff (c := s.cache), hf,
      Definition.Cache.baffles_iff, reduceCtorEq, exists_false, false_or, Chain.ok_bind]
    generalize (s.cache.load s.store.files p).2 = r
    cases r with
    | ok g    => simp
    | error e =>
      cases e with
      | file e    => cases e <;> simp
      | notText   => simp
      | problem p => cases hp : p.isReported <;> simp [hp]

-- A service whose adventure is a folder.
def lost : Service where
  store       := ⟨⟨.ofList [(["data"], .folder), (["data", "players"], .folder), (["d.json"], .folder)], 0⟩,
    .ofText "data"⟩
  cache       := .empty
  environment := "d.json"
  delivery    := .status 200

end Service
end Gamebook
