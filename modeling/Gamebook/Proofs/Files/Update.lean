import Mathlib
import Gamebook.Files.Basic
import Gamebook.Proofs.Chain
import Gamebook.Proofs.Ordered

namespace Gamebook

namespace Spot

variable {s t : Spot} {name : String} {ns : List String}

-- A step further does not lead past a spot that has not been reached.
theorem names_step_eq (ht : ¬ns <+: t.names) (h : ns <+: (t.step name).names) : (t.step name).names = ns := by
  rw [step] at h ⊢
  split at h
  case isTrue =>
    split at h
    case isTrue he =>
      exact absurd (h.trans (List.nil_prefix)) ht
    case isFalse => exact absurd (h.trans (List.dropLast_prefix _)) ht
  case isFalse hn =>
    rw [if_neg hn]
    cases List.prefix_concat_iff.mp h
    case inl h => exact h.symm
    case inr h => exact absurd h ht

end Spot

namespace Files

variable {fs fs' : Files} {s t t' : Spot} {p : PathName} {e : Entry} {name : String} {names : List String}

theorem entry?_of_inside (hi : t.inside) (hn : t.names ≠ []) : fs.entry? t = fs.entries.get? t.names := by
  unfold entry?
  rw [if_neg (by simpa using hn), if_pos hi]

theorem entry?_of_outside (hi : ¬t.inside) (hn : t.names ≠ []) : fs.entry? t = none := by
  unfold entry?
  rw [if_neg (by simpa using hn), if_neg hi]

theorem inside_of_file {content : ByteArray} {stamp : Stamp} (h : fs.entry? s = some (.file content stamp)) :
    s.inside := by
  unfold entry? at h
  split at h
  case isTrue  => cases h
  case isFalse =>
    split at h
    case isTrue hi => exact hi
    case isFalse   => cases h

theorem names_ne_nil (h : fs.entry? s ≠ some .folder) : s.names ≠ [] := by
  intro hn
  unfold entry? at h
  rw [hn] at h
  exact h rfl

theorem visit_eq_ok :
    fs.visit t name = .ok t' ↔
      fs.entry? t = some .folder ∧ ¬nameLimit < name.utf8ByteSize ∧ t' = t.step name := by
  rw [visit]
  split
  case h_1 => split <;> simp_all [eq_comm]
  all_goals simp_all

-- One file is written or removed, and all else is left as it was.
structure Update (s : Spot) (fs fs' : Files) : Prop where
  inside     : s.inside
  not_folder : fs.entry? s ≠ some .folder
  preserved  : ∀ t : Spot, ¬s.names <+: t.names → fs'.entry? t = fs.entry? t

namespace Update

theorem insert (hi : s.inside) (hf : fs.entry? s ≠ some .folder) : Update s fs (fs.insert s e) where
  inside         := hi
  not_folder     := hf
  preserved t ht := by
    have hn : t.names ≠ s.names := fun h => ht (h ▸ List.prefix_rfl)
    unfold entry?
    rw [Files.insert, Ordered.get?_insert, if_neg hn]

theorem remove (hi : s.inside) (hf : fs.entry? s ≠ some .folder) (hs : fs.locate p = .ok s)
    (h : fs.remove p = .ok fs') : Update s fs fs' where
  inside         := hi
  not_folder     := hf
  preserved t ht := by
    have ⟨s', hs', h⟩ := Chain.bind_eq_ok.mp h
    cases hs.symm.trans hs'
    split at h
    case h_1 =>
      cases h
      unfold entry?
      rw [Ordered.get?_filter_pos fun _ => by simpa [← List.isPrefixOf_iff_prefix] using ht]
    case h_2 => cases h

-- No folder is at the updated spot, so no way leads past it.
theorem visits (u : Update s fs fs') (ht : ¬s.names <+: t.names)
    (h : names.foldlM fs.visit t = .ok t') :
    names.foldlM fs'.visit t = .ok t' ∧ (s.names <+: t'.names → t'.names = s.names) := by
  induction names generalizing t with
  | nil =>
    cases h
    exact ⟨rfl, fun h => absurd h ht⟩
  | cons name names hi =>
    have ⟨v, hv, h⟩ := Chain.bind_eq_ok.mp h
    have ⟨hf, hl, he⟩ := visit_eq_ok.mp hv
    have hv' := visit_eq_ok.mpr ⟨(u.preserved t ht).trans hf, hl, he⟩
    rw [List.foldlM_cons, hv', Chain.ok_bind]
    by_cases hs : s.names <+: v.names
    case neg => exact hi hs h
    case pos =>
      have hn : v.names = s.names := he ▸ Spot.names_step_eq ht (he ▸ hs)
      cases names with
      | nil =>
        cases h
        exact ⟨rfl, fun _ => hn⟩
      | cons name names =>
        have ⟨_, hw, _⟩ := Chain.bind_eq_ok.mp h
        have ⟨hf, _, _⟩ := visit_eq_ok.mp hw
        have hne : v.names ≠ [] := hn ▸ names_ne_nil u.not_folder
        by_cases hv : v.inside
        case pos =>
          have : v = s := Spot.ext (hv.trans u.inside.symm) hn
          exact absurd hf (this ▸ u.not_folder)
        case neg => exact nomatch hf.symm.trans (entry?_of_outside hv hne)

theorem locate (u : Update s fs fs') (hp : fs.locate p = .ok t) :
    fs'.locate p = .ok t ∧ (s.names <+: t.names → t.names = s.names) := by
  have hs : ¬s.names <+: (Spot.startOf p).names := fun h =>
    names_ne_nil u.not_folder (List.prefix_nil.mp h)
  rw [Files.locate] at hp ⊢
  split at hp
  case isTrue hf  =>
    rw [if_pos hf]
    exact u.visits hs hp
  case isFalse => cases hp

theorem status (u : Update s fs fs') (hp : fs.locate p = .ok t) (ht : t.names ≠ s.names) :
    fs'.status p = fs.status p := by
  have ⟨hp', hs⟩ := u.locate hp
  rw [Files.status, Files.status, hp, hp', Chain.ok_bind, Chain.ok_bind, u.preserved t (mt hs ht)]

end Update

end Files
end Gamebook
