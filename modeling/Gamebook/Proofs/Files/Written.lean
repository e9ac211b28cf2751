import Mathlib
import Gamebook.Proofs.Files.Update

namespace Gamebook
namespace Files

variable {fs fs' : Files} {s : Spot} {p : PathName} {e : Entry} {content : ByteArray}

theorem entry?_insert_self (h : fs.entry? s ≠ some .folder) (hi : s.inside) :
    entry? (fs.insert s e) s = some e := by
  rw [entry?_of_inside hi (names_ne_nil h), insert, Ordered.get?_insert, if_pos rfl]

theorem place_eq_ok (h : fs.place p e = .ok fs') :
    ∃ s, fs.locate p = .ok s ∧ fs.entry? s ≠ some .folder ∧ s.inside ∧ fs' = fs.insert s e := by
  have ⟨s, hs, h⟩ := Chain.bind_eq_ok.mp h
  refine ⟨s, hs, ?_⟩
  split at h
  case h_1 => cases h
  case h_2 hf =>
    split at h
    case isTrue hi  => exact ⟨hf, hi, (Except.ok.inj h).symm⟩
    case isFalse => cases h

-- Where a file has been written, it holds what was written.
theorem write_eq_ok (h : fs.write p content = .ok fs') :
    ∃ s, fs.locate p = .ok s ∧ Update s fs fs' ∧
      fs'.entry? s = some (.file content (.written fs.writes)) := by
  have ⟨placed, hp, h⟩ := Chain.bind_eq_ok.mp h
  have ⟨s, hs, hf, hi, hp⟩ := place_eq_ok hp
  cases h
  cases hp
  exact ⟨s, hs, ⟨hi, hf, (Update.insert hi hf).preserved⟩, entry?_insert_self hf hi⟩

theorem read_write (h : fs.write p content = .ok fs') : fs'.read p = .ok content := by
  have ⟨s, hs, u, he⟩ := write_eq_ok h
  rw [read, status, (u.locate hs).left, Chain.ok_bind, he]
  rfl

end Files
end Gamebook
