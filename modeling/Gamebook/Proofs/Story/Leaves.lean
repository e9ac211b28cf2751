import Mathlib
import Gamebook.Story.Response

namespace Gamebook
namespace Response

-- The directives at the ends of a response, however deep they are.
inductive Leaf (d : Directive) : Response → Prop
  | single : Leaf d (single d)
  | inner {r : Response} {rs : List Response} (hr : r ∈ rs) (h : Leaf d r) : Leaf d (multiple rs)

variable {d : Directive} {r : Response} {rs : List Response}

mutual
theorem leaf_of_mem_flatten : ∀ {r : Response}, d ∈ r.flatten → r.Leaf d
  | .single _, h   => by
    rw [flatten, List.mem_singleton] at h
    exact h ▸ .single
  | .multiple _, h => by
    have ⟨_, hr, hl⟩ := exists_leaf_of_mem_flattenAll h
    exact .inner hr hl

theorem exists_leaf_of_mem_flattenAll : ∀ {rs : List Response}, d ∈ flattenAll rs → ∃ r ∈ rs, r.Leaf d
  | _ :: _, h => (List.mem_append.mp h).elim (fun h => ⟨_, List.mem_cons_self, leaf_of_mem_flatten h⟩) fun h =>
    have ⟨r, hr, hl⟩ := exists_leaf_of_mem_flattenAll h
    ⟨r, List.mem_cons_of_mem _ hr, hl⟩
end

theorem mem_flatten : d ∈ r.flatten ↔ r.Leaf d := by
  refine ⟨leaf_of_mem_flatten, fun h => ?_⟩
  induction h with
  | single        => exact List.mem_singleton_self d
  | inner hr _ hi =>
    rw [flatten, flattenAll_eq_flatMap]
    exact List.mem_flatMap.mpr ⟨_, hr, hi⟩

end Response

namespace Handler

section

variable {m : Type → Type} [Monad m] [LawfulMonad m] {h : Handler m} {d : Directive} {rs : List Response}

theorem dispatch_single : h.dispatch (.single d) = h.handle d := by
  simp [dispatch, Response.flatten]

theorem dispatch_multiple : h.dispatch (.multiple rs) = rs.forM h.dispatch := by
  rw [dispatch, Response.flatten]
  induction rs with
  | nil          => rfl
  | cons r rs hi =>
    rw [Response.flattenAll, List.forM_eq_forM, List.forM_append, ← List.forM_eq_forM, hi]
    rfl

end

section

variable {σ : Type} {h : Handler (StateM σ)} {f : σ → Directive → σ} {s : σ} {r : Response}

-- A front end that never fails goes from state to state.
theorem run_dispatch (hf : ∀ d s, (h.handle d).run s = ((), f s d)) :
    (h.dispatch r).run s = ((), r.flatten.foldl f s) := by
  rw [dispatch]
  induction r.flatten generalizing s with
  | nil          => rfl
  | cons d ds hi =>
    rw [List.foldl_cons, ← hi, List.forM_eq_forM, List.forM_cons, StateT.run_bind, hf]
    rfl

theorem run_recorder {ds : List Directive} : (recorder.dispatch r).run ds = ((), ds ++ r.flatten) := by
  have hf (d : Directive) (ds : List Directive) : (recorder.handle d).run ds = ((), ds ++ [d]) := by
    cases d <;> rfl
  rw [run_dispatch hf]
  induction r.flatten generalizing ds with
  | nil           => rw [List.append_nil]; rfl
  | cons d ds' hi => rw [List.foldl_cons, hi, List.append_assoc, List.singleton_append]

end

end Handler

theorem Response.calls_eq (r : Response) : r.calls = r.flatten := by
  rw [calls, Handler.run_recorder]
  rfl

end Gamebook
