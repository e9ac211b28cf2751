import Mathlib
import Gamebook.Proofs.Yaml.Layout

namespace Gamebook
namespace Yaml

open Scanner

variable {s : Scanner} {c : Cursor} {d fuel : Nat} {m : String × Json} {ms : List (String × Json)} {T : List Token}

-- The last block ends with the text.
theorem run_end (h : Lands s true 0 [] [0] T) (hf : s.cursor.rest.length < fuel) :
    run fuel s = .ok (T.reverse ++ [.blockEnd]) := by
  have ⟨c, hr, _, _, hset⟩ := h.inside (Int.le_refl 0)
  have hp : (between c true none [0] T).cursor.peek = none := congrArg List.head? hr
  cases fuel with
  | zero      => contradiction
  | succ fuel =>
    rw [run_succ, hset, Chain.ok_bind, hp]
    exact congrArg Except.ok List.reverse_cons

theorem text_render : (render (.obj (m :: ms))).toList = ((writeEntries 0 {} (m :: ms)).toColumn 0).text :=
  String.toList_ofList

-- What is written is read as its tokens, unless a key is too long.
theorem scan_render (h : ∀ e ∈ m :: ms, Shallow d e.2) (hw : 2 * d + 2 < Pen.width) :
    Token.scan (render (.obj (m :: ms))).toList
      = if fits (.obj (m :: ms)) then .ok (tokens true (.obj (m :: ms))) else .error .malformed := by
  have hr : Pen.Ready {} 0 := ⟨rfl, rfl, rfl⟩
  have hx : ∀ e ∈ m :: ms, Written d e.2 := fun e he => (h e he).written
  have ⟨w, ht, hf, hs, hread⟩ :=
    writeEntries_parts (n := 0) (p := {}) hx (List.cons_ne_nil _ _) (hr.toColumn.symm ▸ hr) (by omega)
  rw [hr.toColumn] at ht
  have ht : (render (.obj (m :: ms))).toList = w ++ newLine 0 [] := by
    rw [text_render, (Pen.toColumn_occupied (.inl hf)).left, ht]
    rfl
  have ha : (w ++ newLine 0 []).all isAllowed = true :=
    List.all_eq_true.mpr (List.forall_mem_append.mpr ⟨hs.allowed, List.all_eq_true.mp (by decide)⟩)
  have hl : Lands (between ⟨w ++ newLine 0 [], 0, 0, 0⟩ true none [] []) true 0 (w ++ newLine 0 []) [] [] :=
    lands_here rfl (hs.starts.append hs.ne)
  have hread := hread (Nat.le_refl 0) starts_nil hl (.new (by decide))
  rw [ht, Token.scan, if_pos ha]
  show run _ (between ⟨w ++ newLine 0 [], 0, 0, 0⟩ true none [] []) = _
  rw [fits]
  cases hk : fitsEntries (m :: ms) with
  | false =>
    rw [hk] at hread
    exact hread _ (Nat.lt_succ_self _)
  | true =>
    rw [hk] at hread
    have ⟨s', hl, hend⟩ := hread
    have ⟨fuel, hf, hrun⟩ := hl _ (Nat.lt_succ_self _)
    refine hrun.trans ((run_end hend hf).trans ?_)
    simp [tokens]

end Yaml
end Gamebook
