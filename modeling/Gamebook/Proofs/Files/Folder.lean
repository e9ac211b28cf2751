import Mathlib
import Gamebook.Proofs.Files.Written

namespace Gamebook

-- What is found under a name, whichever version it is.
inductive Found
  | nothing
  | folder
  | file (content : ByteArray)
  | refused

namespace Files

variable {fs fs' : Files} {s t t' : Spot} {p q : PathName} {name : String} {e : Entry} {content : ByteArray}

theorem foldl_step_of_visits {names : List String} (h : names.foldlM fs.visit t = .ok t') :
    t' = names.foldl Spot.step t := by
  induction names generalizing t with
  | nil =>
    cases h
    rfl
  | cons name names hi =>
    have ⟨v, hv, h⟩ := Chain.bind_eq_ok.mp h
    have ⟨_, _, hv⟩ := visit_eq_ok.mp hv
    rw [hi h, hv, List.foldl_cons]

theorem eq_ofPath_of_locate (h : fs.locate p = .ok t) : t = Spot.ofPath p := by
  rw [locate] at h
  split at h
  case isTrue => exact foldl_step_of_visits h
  case isFalse => cases h

theorem status_of_locate (h : fs.locate p = .ok t) :
    fs.status p = match fs.entry? t with
      | some e => .ok e
      | none   => .error .missing := by
  rw [status, h]
  rfl

theorem status_eq_ok :
    fs.status p = .ok e ↔ fs.locate p = .ok (Spot.ofPath p) ∧ fs.entry? (Spot.ofPath p) = some e := by
  constructor
  · intro h
    have ⟨t, ht, h⟩ := Chain.bind_eq_ok.mp h
    cases eq_ofPath_of_locate ht
    split at h
    case h_1 he =>
      cases h
      exact ⟨ht, he⟩
    case h_2 => cases h
  · intro ⟨hl, he⟩
    rw [status_of_locate hl, he]

def look (fs : Files) (p : PathName) : Found :=
  match fs.status p with
  | .ok (.file c _)     => .file c
  | .ok .folder         => .folder
  | .error .nameTooLong => .refused
  | .error _            => .nothing

def found (fs : Files) (s : Spot) : Found :=
  match fs.entry? s with
  | some (.file c _) => .file c
  | some .folder     => .folder
  | none             => .nothing

theorem look_of_locate (h : fs.locate p = .ok t) : fs.look p = fs.found t := by
  rw [look, status_of_locate h, found]
  cases fs.entry? t with
  | none   => rfl
  | some e => cases e <;> rfl

theorem found_eq_nothing : fs.found s = .nothing ↔ fs.entry? s = none := by
  rw [found]
  split <;> simp_all

theorem look_congr (h : fs'.status p = fs.status p) : fs'.look p = fs.look p := by
  rw [look, look, h]

theorem isFile_eq :
    fs.isFile p = match fs.look p with
      | .file _  => .ok true
      | .refused => .error .nameTooLong
      | _        => .ok false := by
  rw [isFile, look]
  split <;> simp_all

theorem status_of_look (h : fs.look p = .file content) :
    ∃ stamp, fs.status p = .ok (.file content stamp) := by
  rw [look] at h
  split at h
  case h_1 hs =>
    cases h
    exact ⟨_, hs⟩
  all_goals cases h

theorem read_of_look (h : fs.look p = .file content) : fs.read p = .ok content := by
  have ⟨_, h⟩ := status_of_look h
  rw [read, h]
  rfl

-- A folder of the area.
structure HasFolder (fs : Files) (q : PathName) : Prop where
  status : fs.status q = .ok .folder
  inside : (Spot.ofPath q).inside

-- A name that does not lead up again.
structure IsOwn (name : String) : Prop where
  fit    : '\x00' ∉ name.toList
  not_up : name ≠ Spot.up

-- The name that a file has directly in a folder.
def child (q : PathName) (name : String) : PathName :=
  q ++ .ofNames [name]

theorem names_child : (child q name).names = q.names ++ [name] :=
  rfl

theorem startOf_child : Spot.startOf (child q name) = Spot.startOf q :=
  rfl

theorem ofPath_child : Spot.ofPath (child q name) = (Spot.ofPath q).step name := by
  rw [Spot.ofPath, names_child, startOf_child, List.foldl_append]
  rfl

namespace HasFolder

theorem locate (h : fs.HasFolder q) : fs.locate q = .ok (Spot.ofPath q) :=
  (status_eq_ok.mp h.status).left

theorem entry? (h : fs.HasFolder q) : fs.entry? (Spot.ofPath q) = some .folder :=
  (status_eq_ok.mp h.status).right

theorem isFit (h : fs.HasFolder q) : Files.isFit q := by
  have hl := h.locate
  rw [Files.locate] at hl
  split at hl
  case isTrue hf => exact hf
  case isFalse   => cases hl

theorem locate_child (h : fs.HasFolder q) (hn : IsOwn name) :
    fs.locate (child q name) =
      if nameLimit < name.utf8ByteSize then .error .nameTooLong else .ok (Spot.ofPath (child q name)) := by
  have hl := h.locate
  rw [Files.locate, if_pos h.isFit] at hl
  have hf : Files.isFit (child q name) := by
    rw [Files.isFit, names_child, List.all_append, Bool.and_eq_true]
    exact ⟨h.isFit, by simpa using hn.fit⟩
  rw [Files.locate, if_pos hf, names_child, startOf_child, List.foldlM_append, hl, Chain.ok_bind,
    List.foldlM_cons, visit, h.entry?, ofPath_child]
  simp only [List.foldlM_nil]
  split <;> rfl

theorem names_ofPath_child (hn : IsOwn name) :
    (Spot.ofPath (child q name)).names = (Spot.ofPath q).names ++ [name] := by
  rw [ofPath_child, Spot.step, if_neg hn.not_up]

theorem inside_child (h : fs.HasFolder q) (hn : IsOwn name) : (Spot.ofPath (child q name)).inside := by
  rw [ofPath_child, Spot.step, if_neg hn.not_up]
  exact h.inside

-- The folder in which a folder is.
theorem of_child (h : fs.HasFolder (child q name)) (hn : IsOwn name) : fs.HasFolder q := by
  have hl := h.locate
  rw [Files.locate, if_pos h.isFit, names_child, startOf_child, List.foldlM_append] at hl
  obtain ⟨t, ht, hl⟩ := Chain.bind_eq_ok.mp hl
  obtain ⟨_, hl, _⟩ := Chain.bind_eq_ok.mp hl
  obtain ⟨he, _, _⟩ := visit_eq_ok.mp hl
  have hf : Files.isFit q := by
    have hf := h.isFit
    rw [Files.isFit, names_child, List.all_append, Bool.and_eq_true] at hf
    exact hf.left
  have hq : fs.locate q = .ok t := by rwa [Files.locate, if_pos hf]
  refine ⟨by rw [status_of_locate hq, he], ?_⟩
  have hi := h.inside
  rwa [ofPath_child, Spot.step, if_neg hn.not_up] at hi

theorem not_prefix (h : fs.HasFolder q) (u : Update s fs fs') : ¬s.names <+: (Spot.ofPath q).names := by
  intro hs
  have he : Spot.ofPath q = s := Spot.ext (h.inside.trans u.inside.symm) ((u.locate h.locate).right hs)
  exact u.not_folder (he ▸ h.entry?)

theorem update (h : fs.HasFolder q) (u : Update s fs fs') : fs'.HasFolder q where
  inside := h.inside
  status := status_eq_ok.mpr ⟨(u.locate h.locate).left, (u.preserved _ (h.not_prefix u)).trans h.entry?⟩

-- The names in a folder are those under which something is found there.
theorem mem_names (h : fs.HasFolder q) :
    name ∈ fs.names q ↔ fs.entry? ⟨true, (Spot.ofPath q).names ++ [name]⟩ ≠ none := by
  have hd {ns : List String} :
      (if ns.dropLast = (Spot.ofPath q).names && (Spot.ofPath q).inside then ns.getLast? else none) = some name ↔
        ns = (Spot.ofPath q).names ++ [name] := by
    rw [h.inside, Bool.and_true]
    constructor
    · intro hn
      rw [Option.ite_none_right_eq_some, decide_eq_true_eq] at hn
      exact hn.left ▸ (List.dropLast_append_getLast? name hn.right).symm
    · rintro rfl
      simp
  rw [entry?_of_inside rfl (by simp), ne_eq, Ordered.get?_eq_none, not_not, Files.names, h.locate, List.mem_filterMap]
  constructor
  · rintro ⟨ns, hm, hn⟩
    exact hd.mp hn ▸ hm
  · intro hm
    exact ⟨_, hm, hd.mpr rfl⟩

end HasFolder

theorem nodup_names : (fs.names q).Nodup := by
  rw [names]
  split
  case h_2 => exact List.nodup_nil
  case h_1 =>
    refine List.Nodup.filterMap ?_ fs.entries.nodup
    intro ns ns' name hn hn'
    rw [Option.mem_def, Option.ite_none_right_eq_some, Bool.and_eq_true, decide_eq_true_eq] at hn hn'
    rw [← List.dropLast_append_getLast? name hn.right, ← List.dropLast_append_getLast? name hn'.right, hn.left.left,
      hn'.left.left]

namespace Update

theorem mem_names (u : Update s fs fs') (h : fs.HasFolder q) (hs : s.names ≠ (Spot.ofPath q).names ++ [name]) :
    name ∈ fs'.names q ↔ name ∈ fs.names q := by
  have hn : ¬s.names <+: (Spot.ofPath q).names ++ [name] := by
    rw [List.prefix_concat_iff, not_or]
    exact ⟨hs, h.not_prefix u⟩
  rw [(h.update u).mem_names, h.mem_names, u.preserved _ hn]

theorem status_child (u : Update s fs fs') (h : fs.HasFolder q) (hn : IsOwn name)
    (hs : (Spot.ofPath (child q name)).names ≠ s.names) :
    fs'.status (child q name) = fs.status (child q name) := by
  by_cases hl : nameLimit < name.utf8ByteSize
  case pos =>
    rw [Files.status, Files.status, (h.update u).locate_child hn, h.locate_child hn, if_pos hl]
    rfl
  case neg =>
    have hp := h.locate_child hn
    rw [if_neg hl] at hp
    exact u.status hp hs

end Update

section

variable (h : fs.HasFolder q) (hn : IsOwn name)
include h hn

theorem look_child (hl : ¬nameLimit < name.utf8ByteSize) :
    fs.look (child q name) = fs.found (Spot.ofPath (child q name)) := by
  have hp := h.locate_child hn
  rw [if_neg hl] at hp
  exact look_of_locate hp

theorem look_child_eq_refused :
    fs.look (child q name) = .refused ↔ nameLimit < name.utf8ByteSize := by
  by_cases hl : nameLimit < name.utf8ByteSize
  case pos =>
    have hp := h.locate_child hn
    rw [if_pos hl] at hp
    simp [look, Files.status, hp, hl]
  case neg =>
    rw [look_child h hn hl, found]
    refine iff_of_false ?_ hl
    split <;> simp

-- What keeps a file from being written into a folder that is there.
theorem write_child_eq_error {e : FileError} :
    fs.write (child q name) content = .error e ↔
      fs.look (child q name) = .refused ∧ e = .nameTooLong ∨
      fs.look (child q name) = .folder ∧ e = .isFolder := by
  have hp := h.locate_child hn
  by_cases hl : nameLimit < name.utf8ByteSize
  case pos =>
    rw [if_pos hl] at hp
    have hr := (look_child_eq_refused h hn).mpr hl
    simp only [write, place, hp, hr, Chain.error_bind, true_and, reduceCtorEq, false_and, or_false,
      Except.error.injEq, eq_comm]
  case neg =>
    rw [if_neg hl] at hp
    simp only [write, place, hp, Chain.ok_bind, look_child h hn hl]
    rw [if_pos (h.inside_child hn)]
    split
    case h_1 he => simp [he, found, eq_comm]
    case h_2 he =>
      refine iff_of_false nofun ?_
      rw [found]
      split <;> simp_all

theorem exists_write_child (hr : fs.look (child q name) ≠ .refused)
    (hf : fs.look (child q name) ≠ .folder) : ∃ fs', fs.write (child q name) content = .ok fs' :=
  Chain.eq_ok_iff.mpr fun _ he =>
    ((write_child_eq_error h hn).mp he).elim (fun he => hr he.left) fun he => hf he.left

end

theorem look_write (h : fs.write p content = .ok fs') : fs'.look p = .file content := by
  have ⟨s, hs, u, he⟩ := write_eq_ok h
  rw [look_of_locate (u.locate hs).left, found, he]

-- A file can be removed, and nothing is left of it.
theorem exists_remove (h : fs.look p = .file content) :
    ∃ fs', fs.remove p = .ok fs' ∧ Update (Spot.ofPath p) fs fs' ∧ fs'.look p = .nothing := by
  have ⟨stamp, hs⟩ := status_of_look h
  have ⟨hl, he⟩ := status_eq_ok.mp hs
  have hi := inside_of_file he
  have hf : fs.entry? (Spot.ofPath p) ≠ some .folder := he ▸ nofun
  have hr : fs.remove p = .ok
      { fs with entries := fs.entries.filter fun ns _ => !(Spot.ofPath p).names.isPrefixOf ns } := by
    rw [remove, hl, Chain.ok_bind, he]
  have u := Update.remove hi hf hl hr
  refine ⟨_, hr, u, ?_⟩
  rw [look_of_locate (u.locate hl).left, found, entry?_of_inside hi (names_ne_nil hf),
    Ordered.get?_filter_neg (by simp)]

theorem entry?_insert_folder (h : fs.entry? t = some .folder) :
    entry? (fs.insert s .folder) t = some .folder := by
  unfold entry? at h ⊢
  rw [insert, Ordered.get?_insert]
  split <;> simp_all

-- Folders that are made are there, and those that were there stay.
theorem makeFolder_go_eq_ok {names : List String} (hs : fs.entry? s = some .folder)
    (h : makeFolder.go fs s names = .ok fs') :
    (∀ t, fs.entry? t = some .folder → fs'.entry? t = some .folder) ∧
      names.foldlM fs'.visit s = .ok (names.foldl Spot.step s) ∧
      fs'.entry? (names.foldl Spot.step s) = some .folder := by
  induction names generalizing fs s with
  | nil =>
    cases h
    exact ⟨fun _ ht => ht, rfl, hs⟩
  | cons name names hi =>
    have ⟨t, ht, h⟩ := Chain.bind_eq_ok.mp h
    have ⟨_, hl, he⟩ := visit_eq_ok.mp ht
    cases he
    have ⟨hk, hv, hf⟩ : (∀ u, fs.entry? u = some .folder → fs'.entry? u = some .folder) ∧
        names.foldlM fs'.visit (s.step name) = .ok (names.foldl Spot.step (s.step name)) ∧
        fs'.entry? (names.foldl Spot.step (s.step name)) = some .folder := by
      split at h
      case h_1 ht => exact hi ht h
      case h_2    => cases h
      case h_3 hn =>
        split at h
        case isTrue hin =>
          have ⟨hk, hv⟩ := hi (entry?_insert_self (hn.trans_ne nofun) hin) h
          exact ⟨fun u hu => hk u (entry?_insert_folder hu), hv⟩
        case isFalse => cases h
    refine ⟨hk, ?_, hf⟩
    rw [List.foldlM_cons, visit_eq_ok.mpr ⟨hk s hs, hl, rfl⟩, Chain.ok_bind, hv, List.foldl_cons]

theorem status_makeFolder (h : fs.makeFolder p = .ok fs') : fs'.status p = .ok .folder := by
  rw [makeFolder] at h
  split at h
  case isTrue hp =>
    have ⟨_, hv, hf⟩ := makeFolder_go_eq_ok (by unfold entry?; rfl) h
    exact status_eq_ok.mpr ⟨by rw [locate, if_pos hp, hv, Spot.ofPath], hf⟩
  case isFalse => cases h

theorem HasFolder.of_makeFolder (h : fs.makeFolder (child q name) = .ok fs') (hn : IsOwn name) :
    fs'.HasFolder (child q name) := by
  have hs := status_makeFolder h
  refine ⟨hs, Classical.byContradiction fun hi => ?_⟩
  have ⟨_, he⟩ := status_eq_ok.mp hs
  rw [entry?_of_outside hi (by simp [names_ofPath_child hn])] at he
  cases he

end Files
end Gamebook
