import Mathlib
import Gamebook.Proofs.Definition.Cached

namespace Gamebook

namespace Files

variable {fs : Files} {p : PathName} {s : Spot} {names : List String} {e : FileError}

theorem fit_step {name : String} (hs : isFit s.toPath) (hn : !name.toList.contains '\x00') :
    isFit (s.step name).toPath := by
  rw [isFit, List.all_eq_true] at hs ⊢
  simp only [Spot.toPath, Spot.step] at hs ⊢
  split
  case isTrue =>
    split
    case isTrue  => exact List.forall_mem_nil _
    case isFalse => exact fun n hn => hs n (List.mem_of_mem_dropLast hn)
  case isFalse => exact List.forall_mem_append.mpr ⟨hs, List.forall_mem_singleton.mpr hn⟩

theorem isFit_toPath_ofPath (h : isFit p) : isFit (Spot.ofPath p).toPath := by
  have hf (s : Spot) (hs : isFit s.toPath) : isFit (p.names.foldl Spot.step s).toPath := by
    rw [isFit, List.all_eq_true] at h
    generalize p.names = names at h
    induction names generalizing s with
    | nil             => exact hs
    | cons n names hi =>
      obtain ⟨hn, h⟩ := List.forall_mem_cons.mp h
      exact hi (s.step n) (fit_step hs hn) h
  exact hf _ rfl

theorem error_of_visit {name : String} (h : fs.visit s name = .error e) :
    e = .missing ∨ e = .notFolder ∨ e = .nameTooLong := by
  rw [visit] at h
  split at h
  case h_1 =>
    split at h <;> cases h
    exact .inr (.inr rfl)
  case h_2 => cases h; exact .inr (.inl rfl)
  case h_3 => cases h; exact .inl rfl

theorem error_of_visits (h : names.foldlM fs.visit s = .error e) :
    e = .missing ∨ e = .notFolder ∨ e = .nameTooLong := by
  induction names generalizing s with
  | nil             => cases h
  | cons n names hi =>
    rcases Chain.bind_eq_error.mp h with h | ⟨_, _, h⟩
    · exact error_of_visit h
    · exact hi h

-- What can keep a file of a fit name from being found.
theorem error_of_status (hp : isFit p) (h : fs.status p = .error e) :
    e = .missing ∨ e = .notFolder ∨ e = .nameTooLong := by
  rcases Chain.bind_eq_error.mp h with h | ⟨t, _, h⟩
  · rw [locate, if_pos hp] at h
    exact error_of_visits h
  · cases he : fs.entry? t <;> rw [he] at h <;> cases h
    exact .inl rfl

-- In the place of a file is a folder, or something on the way to it that is none.
def Bars (fs : Files) (p : PathName) : Prop :=
  isFit p ∧ match fs.status (Spot.ofPath p).toPath with
    | .ok (.file ..) | .error .missing => False
    | _                                => True

end Files

namespace Definition

variable {fs : Files} {c : Cache} {p : PathName} {g : PlaceGraph} {content : ByteArray} {stamp : Stamp}

-- What the contents of a file stand for. The hint is the extension of its name.
def ofBytes (content : ByteArray) (hint : String) : Except LoadError PlaceGraph :=
  match FileText.decode content with
  | some source => (parse source (some hint)).mapError .problem
  | none        => .error .notText

theorem load_of_status (h : fs.status p = .ok (.file content stamp)) : load fs p = ofBytes content p.suffix := by
  rw [load, Files.read, h]
  rfl

-- It is a graph, or has a problem of which the author can be told.
def LoadError.IsTold : LoadError → Prop
  | .problem p => p.isReported
  | _          => False

theorem ofBytes_ne_file (content : ByteArray) (hint : String) (e : FileError) :
    ofBytes content hint ≠ .error (.file e) := by
  intro h
  rw [ofBytes] at h
  split at h
  case h_1 source _ =>
    generalize parse source (some hint) = r at h
    cases r <;> cases h
  case h_2 => cases h

namespace Cache

theorem loadAt_of_error {s : Spot} {e : FileError} (h : fs.status s.toPath = .error e) :
    (c.loadAt fs s).2 = .error (.file e) := by
  rw [loadAt, h]

theorem loadAt_of_folder {s : Spot} (h : fs.status s.toPath = .ok .folder) :
    (c.loadAt fs s).2 = .error (.file .isFolder) := by
  rw [loadAt, h]

theorem loadAt_of_file {s : Spot} (h : fs.status s.toPath = .ok (.file content stamp)) :
    (c.loadAt fs s).2 = match c.fresh? s stamp with
      | some g => .ok g
      | none   => ofBytes content s.toPath.suffix := by
  rw [loadAt, h]
  cases hf : c.fresh? s stamp with
  | some g => simp only [hf]
  | none   =>
    simp only [hf, loadAnew, load_of_status h]
    cases ofBytes content s.toPath.suffix <;> rfl

-- The file has not been loaded in this version, and what is wrong with it cannot be told.
def Baffles (c : Cache) (fs : Files) (p : PathName) : Prop :=
  ∃ content stamp e, Files.isFit p ∧ fs.status (Spot.ofPath p).toPath = .ok (.file content stamp) ∧
    c.fresh? (Spot.ofPath p) stamp = none ∧ ofBytes content (Spot.ofPath p).toPath.suffix = .error e ∧ ¬e.IsTold

theorem bars_iff : fs.Bars p ↔ ∃ e, (c.load fs p).2 = .error (.file e) ∧ e ≠ .missing ∧ e ≠ .unfitName := by
  rw [Files.Bars]
  by_cases hp : Files.isFit p
  case neg =>
    rw [load_of_not_isFit hp]
    exact iff_of_false (fun h => hp h.left) fun ⟨_, he, _, hn⟩ => hn (by cases he; rfl)
  case pos =>
    rw [and_iff_right hp, load_of_isFit hp]
    match hs : fs.status (Spot.ofPath p).toPath with
    | .error e            =>
      rw [loadAt_of_error hs]
      rcases Files.error_of_status (Files.isFit_toPath_ofPath hp) hs with rfl | rfl | rfl <;> simp
    | .ok .folder         =>
      rw [loadAt_of_folder hs]
      simp
    | .ok (.file content stamp) =>
      rw [loadAt_of_file hs]
      refine iff_of_false id fun ⟨e, he, _⟩ => ?_
      split at he
      case h_1 => cases he
      case h_2 => exact ofBytes_ne_file _ _ _ he

theorem not_isFit_iff : ¬Files.isFit p ↔ (c.load fs p).2 = .error (.file .unfitName) := by
  by_cases hp : Files.isFit p
  case neg =>
    rw [load_of_not_isFit hp]
    exact iff_of_true hp rfl
  case pos =>
    rw [load_of_isFit hp]
    refine iff_of_false (not_not_intro hp) fun he => ?_
    match hs : fs.status (Spot.ofPath p).toPath with
    | .error e                  =>
      rw [loadAt_of_error hs] at he
      rcases Files.error_of_status (Files.isFit_toPath_ofPath hp) hs with rfl | rfl | rfl <;> cases he
    | .ok .folder               =>
      rw [loadAt_of_folder hs] at he
      cases he
    | .ok (.file content stamp) =>
      rw [loadAt_of_file hs] at he
      split at he
      case h_1 => cases he
      case h_2 => exact ofBytes_ne_file _ _ _ he

theorem baffles_iff : c.Baffles fs p ↔ ∃ e, (c.load fs p).2 = .error e ∧ ¬e.IsTold ∧ ∀ e', e ≠ .file e' := by
  by_cases hp : Files.isFit p
  case neg =>
    rw [load_of_not_isFit hp]
    refine iff_of_false (fun ⟨_, _, _, h, _⟩ => hp h) fun ⟨_, he, _, hn⟩ => hn .unfitName (by cases he; rfl)
  case pos =>
    rw [load_of_isFit hp]
    constructor
    · rintro ⟨content, stamp, e, _, hs, hf, he, ht⟩
      rw [loadAt_of_file hs, hf]
      exact ⟨e, he, ht, fun e' h => ofBytes_ne_file _ _ _ (h ▸ he)⟩
    · rintro ⟨e, he, ht, hn⟩
      match hs : fs.status (Spot.ofPath p).toPath with
      | .error e'           =>
        rw [loadAt_of_error hs] at he
        exact absurd (Except.error.inj he).symm (hn e')
      | .ok .folder         =>
        rw [loadAt_of_folder hs] at he
        exact absurd (Except.error.inj he).symm (hn .isFolder)
      | .ok (.file content stamp) =>
        rw [loadAt_of_file hs] at he
        split at he
        case h_1 => cases he
        case h_2 hf => exact ⟨content, stamp, e, hp, hs, hf, he, ht⟩

end Cache
end Definition
end Gamebook
