import Mathlib
import Gamebook.Proofs.Chain

namespace Gamebook
namespace Chain

variable {ε α β : Type _} {E : ε → Prop} {P : α → Prop} {Q : β → Prop}

-- A computation fails with nothing but some errors, and gives nothing but some values.
inductive Within (E : ε → Prop) (P : α → Prop) : Except ε α → Prop
  | ok (h : P a)    : Within E P (.ok a)
  | error (h : E e) : Within E P (.error e)

namespace Within

variable {x : Except ε α} {f : α → Except ε β}

theorem of_ok {a : α} (h : Within E P (.ok a : Except ε α)) : P a := by
  cases h
  assumption

theorem of_error {e : ε} (h : Within E P (.error e : Except ε α)) : E e := by
  cases h
  assumption

theorem bind (h : Within E P x) (hf : ∀ a, P a → Within E Q (f a)) : Within E Q (x >>= f) := by
  cases h
  case ok a h    => exact hf a h
  case error e h => exact .error h

theorem map {f : α → β} (h : Within E P x) (hf : ∀ a, P a → Q (f a)) : Within E Q (f <$> x) := by
  cases h
  case ok a h    => exact .ok (hf a h)
  case error e h => exact .error h

theorem mono {P' : α → Prop} (h : Within E P x) (hp : ∀ a, P a → P' a) : Within E P' x := by
  cases h
  case ok a h    => exact .ok (hp a h)
  case error e h => exact .error h

theorem ite {p : Prop} [Decidable p] {y : Except ε α} (h : Within E P x) (h' : Within E P y) :
    Within E P (if p then x else y) := by
  split
  case isTrue  => exact h
  case isFalse => exact h'

theorem mapM {xs : List α} (h : ∀ x ∈ xs, Within E Q (f x)) : Within E (fun ys => ∀ y ∈ ys, Q y) (xs.mapM f) := by
  induction xs with
  | nil          => exact .ok (List.forall_mem_nil _)
  | cons x xs hi =>
    have ⟨hx, hxs⟩ := List.forall_mem_cons.mp h
    rw [List.mapM_cons]
    exact hx.bind fun y hy => (hi hxs).map fun ys hys => List.forall_mem_cons.mpr ⟨hy, hys⟩

end Within
end Chain
end Gamebook
