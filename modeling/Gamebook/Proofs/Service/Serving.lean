import Mathlib
import Gamebook.Proofs.Service.Calls

namespace Gamebook

variable {k : Concern} {store store' : Store} {s s' : Service} {p : PathName} {g : PlaceGraph} {r : String}
  {c : Call}

namespace Concern

-- Is a request the concern of one player at most?
def IsPrivate (k : Concern) : Prop :=
  k ≠ everybody ∧ k ≠ settings

-- Is a player's progress of no interest to a request?
def Spares (k : Concern) (recordId : String) : Prop :=
  ∀ r, k = player r → Slug.ofText recordId ≠ Slug.ofText r

-- Are requests the concerns of players who are stored under different names, if of any?
def Apart (k l : Concern) : Prop :=
  ∀ r, k = player r → l.Spares r

-- Is a file no place where the request may put a player?
def Avoids (k : Concern) (s : Store) (p : PathName) : Prop :=
  ∀ r, k = player r → Spot.ofPath p ≠ s.playerSpot r

end Concern

namespace Store

theorem OnlyAt.playerSpot (h : store.OnlyAt r store') (r' : String) : store'.playerSpot r' = store.playerSpot r' := by
  rw [Store.playerSpot, Store.playerSpot, playerPath, playerPath, playersFolder, playersFolder, h.folder]

end Store

namespace Concern.Allows

variable (h : k.Allows store store') (hk : k ≠ settings)
include h hk

theorem eq_or_onlyAt : store' = store ∨ ∃ r, k = player r ∧ store.OnlyAt r store' := by
  cases k
  case nobody    => exact .inl h
  case player r  => exact .inr ⟨r, rfl, h⟩
  case everybody => exact .inl h
  case settings  => exact absurd rfl hk

theorem isSetUp (hs : store.IsSetUp) : store'.IsSetUp := by
  rcases h.eq_or_onlyAt hk with rfl | ⟨_, _, ho⟩
  · exact hs
  · exact ho.isSetUp hs

theorem settings_eq (hs : store.IsSetUp) : store'.settings = store.settings := by
  rcases h.eq_or_onlyAt hk with rfl | ⟨_, _, ho⟩
  · rfl
  · exact ho.settings hs

theorem playerSpot (r : String) : store'.playerSpot r = store.playerSpot r := by
  rcases h.eq_or_onlyAt hk with rfl | ⟨_, _, ho⟩
  · rfl
  · exact ho.playerSpot r

theorem held (hs : store.IsSetUp) (hr : k.Spares r) : store'.held r = store.held r := by
  rcases h.eq_or_onlyAt hk with rfl | ⟨r', hk, ho⟩
  · rfl
  · exact ho.held hs (hr r' hk)

theorem load {cache : Definition.Cache} (hp : k.Avoids store p) (hg : (cache.load store.files p).2 = .ok g) :
    (cache.load store'.files p).2 = .ok g := by
  rcases h.eq_or_onlyAt hk with rfl | ⟨r, hk, ho⟩
  · exact hg
  · cases ho.files
    case inl hf => exact hf ▸ hg
    case inr u  => exact Definition.Cache.load_update u (hp r hk) hg ▸ hg

end Concern.Allows

namespace Service

-- A service that has been started has its folders.
theorem isSetUp_start {s : Service} {files : Files} {folder : PathName} {adventure : Option PathName}
    (h : start files folder adventure = .ok s) : s.store.IsSetUp := by
  have ⟨store, hs, h⟩ := Chain.bind_eq_ok.mp h
  have hs := Store.isSetUp_setUp (Chain.mapError_eq_ok.mp hs)
  cases adventure with
  | none =>
    cases h
    exact hs
  | some p =>
    have ⟨_, hu, h⟩ := Chain.bind_eq_ok.mp h
    cases h
    have ⟨_, _, hu⟩ := Chain.bind_eq_ok.mp hu
    have ⟨_, hw, hu⟩ := Chain.bind_eq_ok.mp hu
    cases hu
    exact hs.writeJson hw

-- The folders are there, and the adventure is found in a file and can be loaded from it.
structure Serving (s : Service) (p : PathName) (g : PlaceGraph) : Prop where
  setUp : s.store.IsSetUp
  path  : s.adventurePath = .ok p
  load  : (s.cache.load s.store.files p).2 = .ok g

namespace Serving

theorem of_adventure (hs : s.store.IsSetUp) (hp : s.adventurePath = .ok p) (h : s.adventure.2 = .ok g) :
    s.Serving p g where
  setUp := hs
  path  := hp
  load  := by
    rw [adventure, hp] at h
    exact Chain.mapError_eq_ok.mp h

theorem adventure (h : s.Serving p g) :
    s.adventure = ({ s with cache := (s.cache.load s.store.files p).1 }, .ok g) := by
  rw [Service.adventure, h.path]
  exact congrArg (Prod.mk _) (Chain.mapError_eq_ok.mpr h.load)

-- No request ends the service, as long as it leaves the settings and the adventure's file alone.
theorem turned (h : s.Serving p g) (t : s.Turned k s') (hk : k ≠ .settings) (hp : k.Avoids s.store p) :
    s'.Serving p g where
  setUp := t.store.isSetUp hk h.setUp
  path  := by
    have ha := h.path
    rw [adventurePath] at ha ⊢
    rwa [t.environment, t.store.settings_eq hk h.setUp]
  load  := by
    cases t.cache
    case inl hc => exact t.store.load hk hp (hc ▸ h.load)
    case inr hc =>
      have ⟨p', hp', hc⟩ := hc
      cases hp'.symm.trans h.path
      exact t.store.load hk hp (hc ▸ Definition.Cache.load_load h.load)

end Serving

-- A service over an adventure in a file and a folder without players.
def offering (name : String) (g : PlaceGraph) : Service where
  store := {
    files  := {
      entries := .ofList [
        (["data"], .folder),
        (["data", "players"], .folder),
        ((PathName.ofText name).names, .file (FileText.encode (Definition.dump g).render) (.given 0))
      ]
      writes  := 0
    }
    folder := .ofText "data"
  }
  cache       := .empty
  environment := name
  delivery    := .status 200

theorem serving_offering (hg : g.WellFormed) : (offering "story.json" g).Serving (.ofText "story.json") g where
  setUp := ⟨rfl, rfl⟩
  path  := rfl
  load  := Definition.Cache.load_of_look rfl rfl rfl hg

theorem playerFiles_offering : (offering "story.json" g).store.playerFiles = [] :=
  List.mergeSort_nil

end Service
end Gamebook
