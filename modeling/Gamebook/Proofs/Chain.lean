import Mathlib

namespace Gamebook
namespace Chain

-- Steps of which each may fail, one after the other.

variable {ε α β : Type _}

@[simp]
theorem ok_bind (a : α) (f : α → Except ε β) : (Except.ok a >>= f) = f a :=
  rfl

@[simp]
theorem error_bind (e : ε) (f : α → Except ε β) : (Except.error e >>= f) = .error e :=
  rfl

theorem bind_eq_ok {x : Except ε α} {f : α → Except ε β} {b : β} :
    x >>= f = .ok b ↔ ∃ a, x = .ok a ∧ f a = .ok b := by
  cases x
  case ok a    => simp
  case error e => simp

theorem bind_eq_error {x : Except ε α} {f : α → Except ε β} {e : ε} :
    x >>= f = .error e ↔ x = .error e ∨ ∃ a, x = .ok a ∧ f a = .error e := by
  cases x
  case ok a    => simp
  case error e => simp

theorem eq_ok_iff {x : Except ε α} : (∃ a, x = .ok a) ↔ ∀ e, x ≠ .error e := by
  cases x
  case ok a    => simp
  case error e => simp

theorem mapError_eq_ok {δ : Type _} {f : ε → δ} {x : Except ε α} {a : α} :
    x.mapError f = .ok a ↔ x = .ok a := by
  cases x
  case ok b    => simp [Except.mapError]
  case error e => simp [Except.mapError]

theorem map_eq_ok {f : α → β} {x : Except ε α} {b : β} : x.map f = .ok b ↔ ∃ a, x = .ok a ∧ f a = b := by
  cases x
  case ok a    => simp [Except.map]
  case error e => simp [Except.map]

theorem map_eq_error {f : α → β} {x : Except ε α} {e : ε} : x.map f = .error e ↔ x = .error e := by
  cases x
  case ok a    => simp [Except.map]
  case error e => simp [Except.map]

-- Two steps with the same outcome both fail, or both succeed.
theorem cases_of_map_eq {γ : Type _} {x : Except ε α} {y : Except ε β} {f : α → γ} {g : β → γ}
    (h : x.map f = y.map g) :
    (∃ e, x = .error e ∧ y = .error e) ∨ ∃ a b, x = .ok a ∧ y = .ok b ∧ f a = g b := by
  cases x
  case ok a =>
    cases y
    case ok b    => exact .inr ⟨a, b, rfl, rfl, Except.ok.inj h⟩
    case error e => cases h
  case error e =>
    cases y
    case ok b    => cases h
    case error e' => exact .inl ⟨e, rfl, congrArg _ (Except.error.inj h).symm⟩

theorem mapM_eq_ok {f : α → Except ε β} {g : α → β} {xs : List α} (h : ∀ x ∈ xs, f x = .ok (g x)) :
    xs.mapM f = .ok (xs.map g) := by
  induction xs with
  | nil => rfl
  | cons x xs hi =>
    rw [List.mapM_cons, h x List.mem_cons_self, ok_bind,
      hi fun y hy => h y (List.mem_cons_of_mem _ hy)]
    rfl

theorem mapM_map_eq_ok {γ : Type _} {f : β → Except ε γ} {k : α → β} {g : α → γ} {xs : List α}
    (h : ∀ x ∈ xs, f (k x) = .ok (g x)) : (xs.map k).mapM f = .ok (xs.map g) := by
  rw [List.mapM_map]
  exact mapM_eq_ok h

theorem mapM_eq_ok_iff {f : α → Except ε β} {xs : List α} {ys : List β} :
    xs.mapM f = .ok ys ↔ List.Forall₂ (fun x y => f x = .ok y) xs ys := by
  induction xs generalizing ys with
  | nil          => simp [pure, Except.pure, eq_comm]
  | cons x xs hi =>
    simp only [List.mapM_cons, bind_eq_ok, hi, List.forall₂_cons_left_iff]
    constructor
    · rintro ⟨y, hy, ys', hys, h⟩
      cases h
      exact ⟨y, ys', hy, hys, rfl⟩
    · rintro ⟨y, ys', hy, hys, rfl⟩
      exact ⟨y, hy, ys', hys, rfl⟩

section

-- Lists that are related member by member.

variable {γ : Type _} {R : α → β → Prop} {S : α → γ → Prop} {T : β → γ → Prop} {xs : List α} {ys : List β} {zs : List γ}

theorem exists_forall₂ (h : ∀ x ∈ xs, ∃ y, R x y) : ∃ ys, List.Forall₂ R xs ys := by
  induction xs with
  | nil          => exact ⟨[], .nil⟩
  | cons x xs hi =>
    have ⟨⟨y, hy⟩, hxs⟩ := List.forall_mem_cons.mp h
    have ⟨ys, hys⟩ := hi hxs
    exact ⟨y :: ys, .cons hy hys⟩

theorem exists_of_mem_forall₂ {x : α} (h : List.Forall₂ R xs ys) (hx : x ∈ xs) : ∃ y ∈ ys, R x y := by
  induction h with
  | nil          => cases hx
  | cons hr _ hi =>
    cases List.mem_cons.mp hx
    case inl hx => exact ⟨_, List.mem_cons_self, hx ▸ hr⟩
    case inr hx =>
      have ⟨y, hy, hr⟩ := hi hx
      exact ⟨y, List.mem_cons_of_mem _ hy, hr⟩

theorem exists_of_getElem?_forall₂ {i : Nat} {y : β} (h : List.Forall₂ R xs ys) (hy : ys[i]? = some y) :
    ∃ x, xs[i]? = some x ∧ R x y := by
  induction h generalizing i with
  | nil          => cases hy
  | cons hr _ hi =>
    cases i with
    | zero   => exact ⟨_, rfl, Option.some.inj hy ▸ hr⟩
    | succ i => exact hi hy

theorem map_eq_of_forall₂ {f : α → γ} {g : β → γ} (h : List.Forall₂ R xs ys) (he : ∀ x y, R x y → f x = g y) :
    xs.map f = ys.map g := by
  rw [← List.forall₂_eq_eq_eq, List.forall₂_map_left_iff, List.forall₂_map_right_iff]
  exact h.imp he

theorem forall₂_of_forall₂ (h : List.Forall₂ R xs ys) (h' : List.Forall₂ S xs zs)
    (ht : ∀ x y z, R x y → S x z → T y z) : List.Forall₂ T ys zs := by
  induction h generalizing zs with
  | nil =>
    cases h'
    exact .nil
  | cons hr _ hi =>
    cases h' with
    | cons hs h' => exact .cons (ht _ _ _ hr hs) (hi h')

end

theorem exists_mapM_eq_ok {f : α → Except ε β} {xs : List α} (h : ∀ x ∈ xs, ∃ y, f x = .ok y) :
    ∃ ys, xs.mapM f = .ok ys :=
  have ⟨ys, hys⟩ := exists_forall₂ h
  ⟨ys, mapM_eq_ok_iff.mpr hys⟩

theorem exists_of_mem_mapM {f : α → Except ε β} {xs : List α} {ys : List β} {y : β}
    (h : xs.mapM f = .ok ys) (hy : y ∈ ys) : ∃ x ∈ xs, f x = .ok y :=
  exists_of_mem_forall₂ (mapM_eq_ok_iff.mp h).flip hy

theorem exists_of_mapM_eq_ok {f : α → Except ε β} {xs : List α} {ys : List β} (h : xs.mapM f = .ok ys) :
    ∀ x ∈ xs, ∃ y, f x = .ok y := by
  intro x hx
  have ⟨y, _, hy⟩ := exists_of_mem_forall₂ (mapM_eq_ok_iff.mp h) hx
  exact ⟨y, hy⟩

-- A computation fails with the first of some faults, or succeeds if there are none.
inductive Meets (x : Except ε α) : List ε → Prop
  | none {a : α}  : x = .ok a → Meets x []
  | first {e : ε} : x = .error e → Meets x (e :: faults)

namespace Meets

variable {x : Except ε α} {f : α → Except ε β} {faults faults' : List ε}

theorem eq_ok_iff (h : Meets x faults) : (∃ a, x = .ok a) ↔ faults = [] := by
  cases h <;> simp_all

theorem eq_error_iff {e : ε} (h : Meets x faults) : x = .error e ↔ faults.head? = some e := by
  cases h <;> simp_all

theorem ok (a : α) : Meets (.ok a : Except ε α) [] :=
  .none rfl

theorem error (e : ε) : Meets (.error e : Except ε α) (e :: faults) :=
  .first rfl

theorem bind (h : Meets x faults) (h' : ∀ a, x = .ok a → Meets (f a) faults') :
    Meets (x >>= f) (faults ++ faults') := by
  cases h
  case none a h  => exact h ▸ h' a h
  case first e h => exact h ▸ .first rfl

theorem map {f : α → β} (h : Meets x faults) : Meets (f <$> x) faults := by
  cases h
  case none a h  => exact h ▸ .none rfl
  case first e h => exact h ▸ .first rfl

theorem mapM {xs : List α} {k : α → List ε} (h : ∀ x ∈ xs, Meets (f x) (k x)) : Meets (xs.mapM f) (xs.flatMap k) := by
  induction xs with
  | nil          => exact .ok []
  | cons x xs hi =>
    have ⟨hx, hxs⟩ := List.forall_mem_cons.mp h
    rw [List.mapM_cons, List.flatMap_cons]
    exact hx.bind fun _ _ => (hi hxs).map

end Meets

end Chain
end Gamebook
