import Gamebook.Definition.File
import Gamebook.Notice.Webhook
import Gamebook.Skill.Turn
import Gamebook.Store.Players
import Gamebook.Store.Settings
import Gamebook.Web.Http

namespace Gamebook

-- What answers the requests of voice assistants and of those who look after the adventure. The
-- environment may name another adventure than the settings, and tells what becomes of notices.
structure Service where
  store       : Store
  cache       : Definition.Cache
  environment : String
  delivery    : Delivery

namespace Service

-- Why a request fails for no reason of its own.
inductive Fault
  | store (f : Store.Fault)
  | adventureName
  | load (e : Definition.LoadError)
  | notice (f : Notice.Fault)
  | speech (u : Speech.Unmeasured)
  | soundAddress
  | unwritable
deriving DecidableEq, Repr

-- The service over the files that are there, with another adventure if one is given.
def start (files : Files) (folder : PathName) (adventure : Option PathName) :
    Except Store.Fault Service := do
  let store ← (Store.setUp ⟨files, folder⟩).mapError .file
  let store ← match adventure with
    | some p => do
      let (store, _) ← store.updateSettings [(Setting.adventureFile.name, .str p.text)]
      pure store
    | none   => .ok store
  return ⟨store, .empty, "", .status 200⟩

-- Where the adventure is. The environment goes before the settings.
def adventurePath (s : Service) : Except Fault PathName :=
  if s.environment ≠ "" then .ok (.ofText s.environment)
  else do
    match (← s.store.settings.mapError .store) .adventureFile with
    | .str p => .ok (.ofText p)
    | _      => .error .adventureName

def adventure (s : Service) : Service × Except Fault PlaceGraph :=
  match s.adventurePath with
  | .error e => (s, .error e)
  | .ok p    =>
    let (cache, r) := s.cache.load s.store.files p
    ({ s with cache }, r.mapError .load)

-- What can be sent as an answer.
def reply (j : Json) : Except Fault Http.Reply :=
  if j.IsPortable then .ok ⟨200, .json j⟩ else .error .unwritable

end Service
end Gamebook
