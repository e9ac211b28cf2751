import Mathlib
import Gamebook.Proofs.Service.Calls

namespace Gamebook

variable {areas : List Files} {fs fs' : Files} {p : PathName} {content content' : ByteArray} {stamp stamp' : Stamp}

-- Where a file has the same stamp twice, it has the same content.
def Files.Stamped (areas : List Files) : Prop :=
  ∀ fs ∈ areas, ∀ fs' ∈ areas, ∀ p content content' stamp,
    fs.status p = .ok (.file content stamp) → fs'.status p = .ok (.file content' stamp) → content = content'

theorem Files.mem_of_status (h : fs.status p = .ok (.file content stamp)) :
    ((Spot.ofPath p).names, .file content stamp) ∈ fs.entries.entries := by
  have he := (status_eq_ok.mp h).right
  unfold entry? at he
  split at he
  case isTrue => cases he
  case isFalse =>
    split at he
    case isTrue  => exact Ordered.mem_of_get? he
    case isFalse => cases he

namespace Definition

-- The graph that is in the file now.
def loadNow (fs : Files) (p : PathName) : Except LoadError PlaceGraph := do
  load fs (← (Files.resolve p).mapError .file).toPath

theorem load_of_file (h : fs.status p = .ok (.file content stamp)) (h' : fs'.status p = .ok (.file content stamp')) :
    load fs p = load fs' p := by
  simp only [load, Files.read, h, h', Chain.ok_bind]

namespace Cache

variable {c : Cache} {s : Spot} {g : PlaceGraph}

-- Each graph is that of a version which its file once had.
def Faithful (areas : List Files) (c : Cache) : Prop :=
  ∀ s l, c.get? s = some l → ∃ fs ∈ areas, ∃ content,
    fs.status s.toPath = .ok (.file content l.stamp) ∧ Definition.load fs s.toPath = .ok l.graph

theorem fresh?_eq_some : c.fresh? s stamp = some g ↔ c.get? s = some ⟨stamp, g⟩ := by
  rw [fresh?]
  cases c.get? s with
  | none   => simp
  | some l =>
    obtain ⟨stamp', graph⟩ := l
    by_cases hs : stamp' = stamp <;> simp [hs]

namespace Faithful

theorem empty : Faithful areas .empty :=
  nofun

theorem insert (h : c.Faithful areas) (hf : fs ∈ areas) (hs : fs.status s.toPath = .ok (.file content stamp))
    (hg : Definition.load fs s.toPath = .ok g) : Faithful areas (c.insert s ⟨stamp, g⟩) := by
  intro t l hl
  rw [Ordered.get?_insert] at hl
  split at hl
  case isTrue ht =>
    cases hl
    exact ht ▸ ⟨fs, hf, content, hs, hg⟩
  case isFalse => exact h t l hl

theorem loadAt (h : c.Faithful areas) (hf : fs ∈ areas) : (c.loadAt fs s).1.Faithful areas := by
  rw [Cache.loadAt]
  split
  case h_1 => exact h
  case h_2 => exact h
  case h_3 hs =>
    split
    case h_1 => exact h
    case h_2 =>
      rw [loadAnew]
      split
      case h_1 hg => exact h.insert hf hs hg
      case h_2    => exact h

theorem load (h : c.Faithful areas) (hf : fs ∈ areas) : (c.load fs p).1.Faithful areas := by
  rw [Cache.load]
  split
  case h_1 => exact h
  case h_2 => exact h.loadAt hf

-- A graph that is not loaded again is the one that would be loaded.
theorem loadAt_eq (h : c.Faithful areas) (ha : Files.Stamped areas) (hf : fs ∈ areas) :
    (c.loadAt fs s).2 = Definition.load fs s.toPath := by
  rw [Cache.loadAt]
  split
  case h_1 hs => simp [Definition.load, Files.read, hs, Except.mapError]
  case h_2 hs => simp [Definition.load, Files.read, hs, Except.mapError]
  case h_3 content stamp hs =>
    split
    case h_1 g hg =>
      obtain ⟨fs', hf', content', hs', hl⟩ := h s _ (fresh?_eq_some.mp hg)
      obtain rfl := ha fs hf fs' hf' _ _ _ _ hs hs'
      exact (hl.symm.trans (load_of_file hs' hs))
    case h_2 =>
      rw [loadAnew]
      split
      case h_1 hg => exact hg.symm
      case h_2 he => exact he.symm

theorem load_eq (h : c.Faithful areas) (ha : Files.Stamped areas) (hf : fs ∈ areas) :
    (c.load fs p).2 = loadNow fs p := by
  rw [Cache.load, loadNow]
  cases Files.resolve p with
  | error e => rfl
  | ok s    => exact h.loadAt_eq ha hf

end Faithful
end Cache
end Definition

namespace Service

variable {s t : Service} {events : List Event}

-- What can happen to a service and to the files that it finds. They may be edited in any way.
inductive Event
  | edit (files : Files)
  | choose (environment : String)
  | call (c : Call)
  | load (p : PathName)
  | adventure

def pass (s : Service) : Event → Service
  | .edit files         => { s with store := { s.store with files } }
  | .choose environment => { s with environment }
  | .call c             => s.after c
  | .load p             => { s with cache := (s.cache.load s.store.files p).1 }
  | .adventure          => s.adventure.1

-- The service before, between and after some events.
def course (s : Service) : List Event → List Service
  | []      => [s]
  | e :: es => s :: (s.pass e).course es

theorem Turned.faithful {k : Concern} (h : s.Turned k t) (hc : s.cache.Faithful areas) (hf : s.store.files ∈ areas) :
    t.cache.Faithful areas := by
  cases h.cache
  case inl he => exact he ▸ hc
  case inr he =>
    have ⟨p, _, he⟩ := he
    exact he ▸ hc.load hf

theorem faithful_pass (hc : s.cache.Faithful areas) (hf : s.store.files ∈ areas) (e : Event) :
    (s.pass e).cache.Faithful areas := by
  cases e with
  | edit files         => exact hc
  | choose environment => exact hc
  | call c             => exact after_turned.faithful hc hf
  | load p             => exact hc.load hf
  | adventure          => exact adventure_turned.faithful hc hf

theorem faithful_course (hc : s.cache.Faithful areas) (hf : ∀ t ∈ s.course events, t.store.files ∈ areas) :
    ∀ t ∈ s.course events, t.cache.Faithful areas := by
  induction events generalizing s with
  | nil            => exact List.forall_mem_singleton.mpr hc
  | cons e es hi =>
    have ⟨hs, hes⟩ := List.forall_mem_cons.mp hf
    exact List.forall_mem_cons.mpr ⟨hc, hi (faithful_pass hc hs e) hes⟩

-- What is loaded is at all times what is in the file then, whatever was there before, as long as no
-- two contents of a file have the same stamp.
theorem loads_now (h : s.cache = .empty) (ha : Files.Stamped ((s.course events).map (·.store.files))) :
    ∀ t ∈ s.course events,
      (∀ p, (t.cache.load t.store.files p).2 = Definition.loadNow t.store.files p) ∧
        t.adventure.2 = t.adventurePath >>= fun p => (Definition.loadNow t.store.files p).mapError .load := by
  intro t ht
  have hf (t : Service) (ht : t ∈ s.course events) : t.store.files ∈ (s.course events).map (·.store.files) :=
    List.mem_map_of_mem ht
  have hc := faithful_course (h ▸ .empty) hf t ht
  have hl (p : PathName) := hc.load_eq (p := p) ha (hf t ht)
  refine ⟨hl, ?_⟩
  rw [adventure]
  cases t.adventurePath with
  | error e => rfl
  | ok p    => exact congrArg (Except.mapError Fault.load) (hl p)

-- An area with one adventure in it.
def shelf (text : String) (stamp : Stamp) : Files :=
  ⟨.ofList [(["story.json"], .file (FileText.encode text) stamp)], 0⟩

-- It gets broken, is removed, and is then put back as it was.
def mishaps : List Event :=
  [.adventure, .edit (shelf "\x7b" (.given 2)), .adventure, .edit .empty, .adventure,
    .edit (shelf "\x7b\x7d" (.given 1)), .adventure]

def reader : Service :=
  ⟨⟨shelf "\x7b\x7d" (.given 1), .ofText "data"⟩, .empty, "story.json", .status 200⟩

theorem status_shelf {text : String} (h : (shelf text stamp).status p = .ok (.file content stamp')) :
    content = FileText.encode text ∧ stamp' = stamp := by
  have hm := List.mem_singleton.mp (Ordered.mem_of_mem_ofList (Files.mem_of_status h))
  cases (Prod.mk.inj hm).right
  exact ⟨rfl, rfl⟩

theorem stamped_mishaps : Files.Stamped ((reader.course mishaps).map (·.store.files)) := by
  have hv (fs : Files) (hf : fs ∈ (reader.course mishaps).map (·.store.files)) {p content stamp}
      (hs : fs.status p = .ok (.file content stamp)) :
      content = FileText.encode "\x7b\x7d" ∧ stamp = .given 1 ∨ content = FileText.encode "\x7b" ∧ stamp = .given 2 := by
    simp only [course, mishaps, pass, reader, store_adventure, List.map_cons, List.map_nil, List.mem_cons,
      List.not_mem_nil, or_false] at hf
    obtain rfl | rfl | rfl : fs = shelf "\x7b\x7d" (.given 1) ∨ fs = shelf "\x7b" (.given 2) ∨ fs = .empty := by tauto
    · exact .inl (status_shelf hs)
    · exact .inr (status_shelf hs)
    · cases Files.mem_of_status hs
  intro fs hf fs' hf' p content content' stamp hs hs'
  rcases hv fs hf hs with ⟨rfl, rfl⟩ | ⟨rfl, rfl⟩ <;> rcases hv fs' hf' hs' with ⟨rfl, ht⟩ | ⟨rfl, ht⟩
  all_goals first
    | rfl
    | cases ht

theorem loads_now_mishaps : reader.cache = .empty ∧ Files.Stamped ((reader.course mishaps).map (·.store.files)) ∧
    ∀ t ∈ reader.course mishaps,
      (∀ p, (t.cache.load t.store.files p).2 = Definition.loadNow t.store.files p) ∧
        t.adventure.2 = t.adventurePath >>= fun p => (Definition.loadNow t.store.files p).mapError .load :=
  ⟨rfl, stamped_mishaps, loads_now rfl stamped_mishaps⟩

end Service
end Gamebook
