import Mathlib
import Gamebook.Proofs.Definition.JsonRoundTrip
import Gamebook.Proofs.Files.Folder

namespace Gamebook

namespace Spot

variable {s : Spot} {p : PathName} {names : List String}

theorem up_notMem_foldl_step (h : up ∉ s.names) : up ∉ (names.foldl step s).names := by
  induction names generalizing s with
  | nil => exact h
  | cons n names hi =>
    refine hi ?_
    rw [step]
    split
    case isTrue =>
      split
      case isTrue  => exact List.not_mem_nil
      case isFalse => exact fun hm => h (List.mem_of_mem_dropLast hm)
    case isFalse hn =>
      rw [List.mem_append, List.mem_singleton]
      exact not_or.mpr ⟨h, Ne.symm hn⟩

theorem foldl_step_of_notMem (h : up ∉ names) : names.foldl step s = ⟨s.inside, s.names ++ names⟩ := by
  induction names generalizing s with
  | nil => rw [List.foldl_nil, List.append_nil]
  | cons n names hi =>
    have ⟨hn, hm⟩ := not_or.mp (mt List.mem_cons.mpr h)
    rw [List.foldl_cons, hi hm, step, if_neg (Ne.symm hn), List.append_assoc, List.singleton_append]

theorem ofPath_toPath (h : up ∉ s.names) : ofPath s.toPath = s := by
  rw [ofPath, toPath, foldl_step_of_notMem h]
  refine Spot.ext ?_ (List.nil_append _)
  rw [startOf, PathName.isAbsolute]
  cases s.inside <;> rfl

theorem ofPath_toPath_ofPath (p : PathName) : ofPath (ofPath p).toPath = ofPath p :=
  ofPath_toPath (up_notMem_foldl_step List.not_mem_nil)

end Spot

namespace Definition

variable {fs fs' : Files} {c : Cache} {p : PathName} {g : PlaceGraph} {s : Spot}

theorem load_congr (h : fs'.status p = fs.status p) : load fs' p = load fs p := by
  rw [load, load, Files.read, Files.read, h]

namespace Cache

theorem load_of_isFit (h : Files.isFit p) : c.load fs p = c.loadAt fs (Spot.ofPath p) := by
  rw [load, Files.resolve, if_pos h]

theorem load_of_not_isFit (h : ¬Files.isFit p) : c.load fs p = (c, .error (.file .unfitName)) := by
  rw [load, Files.resolve, if_neg h]

-- What is loaded depends on nothing but the file that it is loaded from.
theorem load_congr (h : fs'.status (Spot.ofPath p).toPath = fs.status (Spot.ofPath p).toPath) :
    c.load fs' p = c.load fs p := by
  by_cases hp : Files.isFit p
  case pos => simp only [load_of_isFit hp, loadAt, loadAnew, h, Definition.load_congr h]
  case neg => rw [load_of_not_isFit hp, load_of_not_isFit hp]

theorem fresh?_insert {stamp : Stamp} : Cache.fresh? (c.insert s ⟨stamp, g⟩) s stamp = some g := by
  rw [fresh?, Ordered.get?_insert, if_pos rfl]
  exact if_pos rfl

theorem isFit_of_load (h : (c.load fs p).2 = .ok g) : Files.isFit p := by
  by_contra hp
  rw [load_of_not_isFit hp] at h
  cases h

theorem exists_status_of_load (h : (c.load fs p).2 = .ok g) :
    ∃ content stamp, fs.status (Spot.ofPath p).toPath = .ok (.file content stamp) := by
  rw [load_of_isFit (isFit_of_load h), loadAt] at h
  split at h
  case h_1 => cases h
  case h_2 => cases h
  case h_3 hs => exact ⟨_, _, hs⟩

-- What has been loaded is loaded again.
theorem load_load (h : (c.load fs p).2 = .ok g) : ((c.load fs p).1.load fs p).2 = .ok g := by
  have ⟨content, stamp, hs⟩ := exists_status_of_load h
  have hp := isFit_of_load h
  simp only [load_of_isFit hp, loadAt, hs] at h ⊢
  cases hf : c.fresh? (Spot.ofPath p) stamp with
  | some g' =>
    rw [hf] at h
    simp only [hf]
    exact h
  | none =>
    rw [hf] at h
    simp only [loadAnew] at h ⊢
    cases hl : Definition.load fs (Spot.ofPath p).toPath with
    | ok g' =>
      rw [hl] at h
      simp only [fresh?_insert]
      exact h
    | error e =>
      rw [hl] at h
      cases h

-- Where another file is updated, the adventure stays as it is.
theorem load_update (u : Files.Update s fs fs') (hs : Spot.ofPath p ≠ s) (h : (c.load fs p).2 = .ok g) :
    c.load fs' p = c.load fs p := by
  have ⟨_, _, hf⟩ := exists_status_of_load h
  have ⟨hl, he⟩ := Files.status_eq_ok.mp hf
  rw [Spot.ofPath_toPath_ofPath] at hl he
  exact load_congr (u.status hl fun hn => hs (Spot.ext ((Files.inside_of_file he).trans u.inside.symm) hn))

-- At first everything is loaded from its file.
theorem load_of_look (hf : Files.isFit p) (h : fs.look (Spot.ofPath p).toPath = .file (FileText.encode (dump g).render))
    (hp : (Spot.ofPath p).toPath.suffix = ".json") (hg : g.WellFormed) : (Cache.load fs .empty p).2 = .ok g := by
  have ⟨stamp, hs⟩ := Files.status_of_look h
  have hl : Definition.load fs (Spot.ofPath p).toPath = .ok g := by
    rw [Definition.load, Files.read_of_look h]
    simp only [Except.mapError, Chain.ok_bind, decode_render, hp, parse_render format_json_suffix hg]
  have hn : Cache.fresh? .empty (Spot.ofPath p) stamp = none := rfl
  simp only [load_of_isFit hf, loadAt, hs, hn, loadAnew, hl]

end Cache
end Definition
end Gamebook
