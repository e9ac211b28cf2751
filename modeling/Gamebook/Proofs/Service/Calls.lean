import Mathlib
import Gamebook.Proofs.Definition.Cached
import Gamebook.Proofs.Skill.Turn
import Gamebook.Proofs.Store.Held
import Gamebook.Service.Route

namespace Gamebook

-- A request and the time at which it comes in.
structure Call where
  now     : Timestamp
  request : Http.Request
deriving DecidableEq, Repr

-- Whose stored progress a request has to do with.
inductive Concern
  | nobody
  | player (recordId : String)
  | everybody
  | settings

namespace Concern

-- Requests without a record id, and those that ask for no turn, leave the store alone.
def ofSkill (q : Skill.Request) : Concern :=
  if q.recordId = "" || q.occasion.plan?.isNone then nobody else player q.recordId

def ofRoute (r : Http.Request) : Service.Route → Concern
  | .players   => if r.method = "GET" then everybody else nobody
  | .settings  => if r.method = "PATCH" then settings else nobody
  | .player id => if r.method = "GET" || r.method = "DELETE" then player id else nobody
  | .skill     =>
    if r.method = "POST" then match Service.Body.read Skill.Request.ofJson r.body with
      | .good q => ofSkill q
      | _       => nobody
    else nobody
  | _          => nobody

end Concern

def Call.concern (c : Call) : Concern :=
  ((Service.Route.ofPlace? c.request.place).map (.ofRoute c.request)).getD .nobody

namespace Concern

theorem nobody_ne_player {r : String} : nobody ≠ player r :=
  nofun

-- What a request that is somebody's concern may change in a store.
def Allows : Concern → Store → Store → Prop
  | nobody,    s, s' => s' = s
  | player r,  s, s' => s.OnlyAt r s'
  | everybody, s, s' => s' = s
  | settings,  _, _  => True

theorem Allows.refl (k : Concern) (s : Store) : k.Allows s s := by
  cases k
  case player r => exact Store.OnlyAt.refl
  all_goals trivial

end Concern

namespace Service

def after (s : Service) (c : Call) : Service :=
  (s.handle c.now c.request).1

def answer (s : Service) (c : Call) : Option Notice × Http.Reply :=
  (s.handle c.now c.request).2

variable {s s' t : Service} {c : Call} {r : String} {p : PathName} {g : PlaceGraph} {now : Timestamp}

-- A service after a request that is somebody's concern.
structure Turned (k : Concern) (s s' : Service) : Prop where
  environment : s'.environment = s.environment
  delivery    : s'.delivery = s.delivery
  store       : k.Allows s.store s'.store
  cache       : s'.cache = s.cache ∨
    ∃ p, s.adventurePath = .ok p ∧ s'.cache = (s.cache.load s.store.files p).1

namespace Turned

variable {k : Concern} {store : Store}

theorem keep (h : k.Allows s.store store) : s.Turned k { s with store } :=
  ⟨rfl, rfl, h, .inl rfl⟩

theorem refl : s.Turned k s :=
  keep (.refl k s.store)

end Turned

theorem adventure_turned : s.Turned .nobody s.adventure.1 := by
  rw [adventure]
  split
  case h_1 => exact .refl
  case h_2 p hp => exact ⟨rfl, rfl, rfl, .inr ⟨p, hp, rfl⟩⟩

theorem store_adventure : s.adventure.1.store = s.store :=
  adventure_turned.store

namespace Turned

variable {k : Concern} {store : Store}

-- The adventure may be loaded before the store is changed.
theorem adventure (h : k.Allows s.store store) : s.Turned k { s.adventure.1 with store } :=
  have ⟨environment, delivery, _, cache⟩ := adventure_turned (s := s)
  ⟨environment, delivery, h, cache⟩

theorem of_nobody (h : s.Turned .nobody s') : s.Turned k s' :=
  have hs : s'.store = s.store := h.store
  ⟨h.environment, h.delivery, hs ▸ .refl k s.store, h.cache⟩

end Turned

theorem keepPlayer_allows {store store' : Store} {p : Player} {q : Skill.Request} (hp : p.recordId = q.recordId)
    (hq : q.occasion.plan?.isSome) (h : store.keepPlayer p = .ok store') :
    (Concern.ofSkill q).Allows store store' := by
  rw [Store.keepPlayer] at h
  split at h
  case isTrue =>
    cases h
    exact .refl _ _
  case isFalse hn =>
    rw [hp] at hn h
    have hk : Concern.ofSkill q = .player q.recordId := by
      simp [Concern.ofSkill, hn, Option.isSome_iff_ne_none.mp hq]
    exact hk ▸ Store.savePlayer_onlyAt h

theorem play_allows {settings : Settings} {q : Skill.Request} {plan : Skill.Plan}
    (hq : q.occasion.plan?.isSome) :
    ∃ store, (Concern.ofSkill q).Allows s.store store ∧
      (Voice.play s settings g now q plan).service = { s with store } := by
  rw [Voice.play]
  split
  case h_1 => exact ⟨s.store, .refl _ _, rfl⟩
  case h_2 p hp =>
    rw [Voice.finish]
    split
    case h_1 => exact ⟨s.store, .refl _ _, rfl⟩
    case h_2 store hk =>
      have hr : (Skill.Turn.take g now p plan).player.recordId = q.recordId :=
        Skill.Turn.recordId_take.trans (Store.recordId_restorePlayer hp)
      exact ⟨store, keepPlayer_allows hr hq hk, rfl⟩

theorem answer_turned {q : Skill.Request} : s.Turned (.ofSkill q) (Voice.answer s now q).service := by
  rw [Voice.answer]
  split
  case h_2 => exact .refl
  case h_1 plan hq =>
    rw [Voice.begin]
    split
    case h_1 => exact .refl
    case h_2 settings _ =>
      split
      case h_1 s' g h =>
        obtain rfl : s.adventure.1 = s' := congrArg Prod.fst h
        have ⟨store, ha, hp⟩ : ∃ store, (Concern.ofSkill q).Allows s.adventure.1.store store ∧
            (Voice.play s.adventure.1 settings g now q plan).service = { s.adventure.1 with store } :=
          play_allows (by rw [hq]; rfl)
        rw [hp]
        exact .adventure (store_adventure ▸ ha)
      case h_2 s' e h =>
        obtain rfl : s.adventure.1 = s' := congrArg Prod.fst h
        exact .of_nobody adventure_turned

theorem deletePlayer_turned : s.Turned (.player r) (deletePlayer s r).service := by
  rw [deletePlayer]
  split
  case h_1 => exact .refl
  case h_2 store h => exact .keep (Store.deletePlayer_onlyAt h)
  case h_3 store h => exact .keep (Store.deletePlayer_onlyAt h)

theorem postSkill_turned {body : String} :
    s.Turned (match Body.read Skill.Request.ofJson body with
      | .good q => .ofSkill q
      | _       => .nobody) (postSkill s now body).service := by
  rw [postSkill]
  cases Body.read Skill.Request.ofJson body
  case good       => exact answer_turned
  case unfit      => exact .refl
  case unreadable => exact .refl

theorem patchSettings_turned {body : String} : s.Turned .settings (patchSettings s body).service := by
  rw [patchSettings]
  split
  case h_1 => exact .refl
  case h_2 => exact .refl
  case h_3 =>
    split
    case h_1 => exact .refl
    case h_2 => exact .keep trivial

theorem getAdventure_turned : s.Turned .nobody (getAdventure s).service := by
  have ha := adventure_turned (s := s)
  rw [getAdventure]
  split
  all_goals
    rename_i s' _ h
    obtain rfl : s.adventure.1 = s' := congrArg Prod.fst h
    exact ha

theorem follow_turned {q : Http.Request} {route : Route} :
    s.Turned (.ofRoute q route) (s.follow now q route).service := by
  unfold follow
  split
  case h_3 hm => simpa [Concern.ofRoute, hm] using patchSettings_turned
  case h_4    => exact getAdventure_turned
  case h_7 hm => simpa [Concern.ofRoute, hm] using deletePlayer_turned
  case h_8 hm => simpa [Concern.ofRoute, hm] using postSkill_turned
  all_goals exact .refl

theorem after_turned : s.Turned c.concern (s.after c) := by
  rw [after, handle, Call.concern]
  cases Route.ofPlace? c.request.place with
  | none       => exact .refl
  | some route => exact follow_turned

variable {calls rest : List Call}

def run (s : Service) (calls : List Call) : Service :=
  calls.foldl after s

theorem run_append : s.run (calls ++ rest) = (s.run calls).run rest :=
  List.foldl_append

theorem run_cons : s.run (c :: calls) = (s.after c).run calls :=
  rfl

theorem run_concat : s.run (calls ++ [c]) = (s.run calls).after c :=
  List.foldl_append

-- The answers to requests that come in one after the other.
def answers (s : Service) (call : α → Call) : List α → List (α × Option Notice × Http.Reply)
  | []      => []
  | x :: xs => (x, s.answer (call x)) :: (s.after (call x)).answers call xs

theorem answers_concat : s.answers id (calls ++ [c]) = s.answers id calls ++ [(c, (s.run calls).answer c)] := by
  induction calls generalizing s with
  | nil        => rfl
  | cons _ _ hi => exact congrArg _ hi

end Service
end Gamebook
