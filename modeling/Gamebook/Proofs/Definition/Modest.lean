import Mathlib
import Gamebook.Definition.Build
import Gamebook.Proofs.Definition.Written
import Gamebook.Proofs.Within

namespace Gamebook

-- Data in which every number that may be read as a text has one.
inductive Datum.IsModest : Datum → Prop
  | scalar (h : ¬s.isOversize)                                              : IsModest (.scalar s)
  | list (h : ∀ d ∈ ds, IsModest d)                                         : IsModest (.list ds)
  | map (hk : ∀ e ∈ es, ¬e.fst.isOversize) (hv : ∀ e ∈ es, IsModest e.snd) : IsModest (.map es)
  | set (h : ∀ s ∈ ms, ¬s.isOversize)                                       : IsModest (.set ms)
  | pair (hk : IsModest k) (hv : IsModest v)                                : IsModest (.pair k v)

namespace Datum

variable {d : Datum} {ds : List Datum} {es es' : List (Scalar × Datum)} {k : Scalar} {name : String}

namespace IsModest

theorem not_isOversize (h : d.IsModest) : ¬d.isOversize := by
  cases h with
  | scalar h => exact h
  | list     => exact Bool.false_ne_true
  | map      => exact Bool.false_ne_true
  | set h    => simpa [isOversize] using h
  | pair     => exact Bool.false_ne_true

theorem items (h : (Datum.list ds).IsModest) : ∀ d ∈ ds, d.IsModest := by
  cases h
  assumption

theorem keys (h : (Datum.map es).IsModest) : ∀ e ∈ es, ¬e.fst.isOversize := by
  cases h
  assumption

theorem values (h : (Datum.map es).IsModest) : ∀ e ∈ es, e.snd.IsModest := by
  cases h
  assumption

theorem member? (h : (Datum.map es).IsModest) (hd : Datum.member? es name = some d) : d.IsModest := by
  have hg : get? es name = some d := by
    rw [Datum.member?] at hd
    split at hd
    case h_1 => cases hd
    case h_2 => exact hd
  obtain ⟨e, he, rfl⟩ := Option.map_eq_some_iff.mp hg
  exact h.values e (List.mem_of_find?_eq_some he)

theorem members {ms : List Scalar} (h : (Datum.set ms).IsModest) : ∀ s ∈ ms, ¬s.isOversize := by
  cases h
  assumption

theorem parts {k v : Datum} (h : (Datum.pair k v).IsModest) : k.IsModest ∧ v.IsModest := by
  cases h with
  | pair hk hv => exact ⟨hk, hv⟩

-- Maps are put together.

theorem map_nil : (Datum.map []).IsModest :=
  .map (List.forall_mem_nil _) (List.forall_mem_nil _)

theorem map_cons (hk : ¬k.isOversize) (hd : d.IsModest) (h : (Datum.map es).IsModest) :
    (Datum.map ((k, d) :: es)).IsModest :=
  .map (List.forall_mem_cons.mpr ⟨hk, h.keys⟩) (List.forall_mem_cons.mpr ⟨hd, h.values⟩)

theorem map_append (h : (Datum.map es).IsModest) (h' : (Datum.map es').IsModest) : (Datum.map (es ++ es')).IsModest :=
  .map (List.forall_mem_append.mpr ⟨h.keys, h'.keys⟩) (List.forall_mem_append.mpr ⟨h.values, h'.values⟩)

theorem map_put (hk : ¬k.isOversize) (hd : d.IsModest) (h : (Datum.map es).IsModest) :
    (Datum.map (put k d es)).IsModest := by
  induction es with
  | nil => exact map_cons hk hd h
  | cons e es hi =>
    have ⟨he, hes⟩ := List.forall_mem_cons.mp h.keys
    have ⟨he', hes'⟩ := List.forall_mem_cons.mp h.values
    rw [put]
    split
    case isTrue  => exact map_cons he hd (.map hes hes')
    case isFalse => exact map_cons he he' (hi (.map hes hes'))

theorem map_putAll (h : (Datum.map es).IsModest) (h' : (Datum.map es').IsModest) :
    (Datum.map (es'.foldl (fun es e => put e.1 e.2 es) es)).IsModest := by
  induction es' generalizing es with
  | nil => exact h
  | cons e es' hi =>
    have ⟨hk, hks⟩ := List.forall_mem_cons.mp h'.keys
    have ⟨hv, hvs⟩ := List.forall_mem_cons.mp h'.values
    exact hi (map_put hk hv h) (.map hks hvs)

theorem map_members {ms : List Scalar} (h : (Datum.set ms).IsModest) : (Datum.map (ms.map (·, null))).IsModest :=
  .map (List.forall_mem_map.mpr h.members) (List.forall_mem_map.mpr fun _ _ => .scalar Bool.false_ne_true)

end IsModest

attribute [local irreducible] Json.isOversize

-- Whatever can be written in JSON is modest.
theorem isModest_ofJson {j : Json} (h : j.IsWritable) : (ofJson j).IsModest := by
  match j with
  | .null | .bool _ | .float _ | .str _ => exact .scalar Bool.false_ne_true
  | .int i                              => exact .scalar (ne_of_eq_of_ne h Bool.false_ne_true)
  | .arr xs =>
    rw [ofJson, ofItems_eq_map]
    refine .list (List.forall_mem_map.mpr fun x hx => ?_)
    exact isModest_ofJson (Json.anyItem_eq_false.mp h x hx)
  | .obj ms =>
    rw [ofJson, ofMembers_eq_map]
    refine .map (List.forall_mem_map.mpr fun m _ => Bool.false_ne_true) (List.forall_mem_map.mpr fun m hm => ?_)
    exact isModest_ofJson (Json.anyMember_eq_false.mp h m hm)
termination_by sizeOf j
decreasing_by
  · have := List.sizeOf_lt_of_mem hx
    simp only [Json.arr.sizeOf_spec]
    omega
  · have := List.sizeOf_lt_of_mem hm
    cases m
    simp only [Json.obj.sizeOf_spec, Prod.mk.sizeOf_spec] at this ⊢
    omega

end Datum

namespace Definition

open Chain

variable {path : Path} {d : Datum} {ds : List Datum} {es : List (Scalar × Datum)} {key : Scalar} {name : String}

-- Whatever goes wrong can be told to the author.
def Tells (x : Except Problem α) : Prop :=
  Within (fun p => p.isReported) (fun _ => True) x

namespace Tells

theorem ok (a : α) : Tells (.ok a) :=
  Within.ok trivial

theorem bind {x : Except Problem α} {f : α → Except Problem β} (h : Tells x) (hf : ∀ a, Tells (f a)) :
    Tells (x >>= f) :=
  Within.bind h fun a _ => hf a

theorem map {x : Except Problem α} {f : α → β} (h : Tells x) : Tells (f <$> x) :=
  Within.map h fun _ _ => trivial

theorem mapM {xs : List α} {f : α → Except Problem β} (h : ∀ x ∈ xs, Tells (f x)) : Tells (xs.mapM f) :=
  (Within.mapM h).mono fun _ _ => trivial

end Tells

theorem tells_nameOf (h : ¬key.isOversize) : Tells (nameOf key) := by
  rw [nameOf, if_neg h]
  exact .ok _

theorem tells_textOf (h : d.IsModest) : Tells (textOf d) := by
  rw [textOf, if_neg h.not_isOversize]
  exact .ok _

attribute [local irreducible] nameOf textOf

theorem tells_buildAction (h : d.IsModest) : Tells (buildAction path d) := by
  rw [buildAction.eq_def]
  split
  case h_1 key value =>
    refine (tells_nameOf (h.keys _ List.mem_cons_self)).bind fun name => ?_
    split
    case h_1 => exact .error rfl
    case h_2 =>
      split
      case h_4 => exact (tells_textOf (h.values _ List.mem_cons_self)).map
      all_goals exact .error rfl
  case h_2 => exact .error rfl

theorem tells_buildActions (h : ∀ d ∈ ds, d.IsModest) : Tells (buildActions path ds) :=
  .mapM fun x hx => tells_buildAction (h x.fst (List.fst_mem_of_mem_zipIdx hx))

theorem tells_buildChoice (hk : ¬key.isOversize) (h : d.IsModest) : Tells (buildChoice path key d) := by
  rw [buildChoice]
  refine (tells_nameOf hk).bind fun name => ?_
  dsimp only
  split
  case h_1 => exact .error rfl
  case h_2 =>
    split
    case h_1 => exact (tells_buildActions h.items).map
    case h_2 => exact .error rfl

theorem tells_buildChoices (h : (Datum.map es).IsModest) : Tells (buildChoices path es) :=
  (Tells.mapM fun e he => tells_buildChoice (h.keys e he) (h.values e he)).map

theorem within_optionalObject (h : (Datum.map es).IsModest) :
    Within (fun p => p.isReported) (fun es' => (Datum.map es').IsModest) (optionalObject es name path) := by
  rw [optionalObject]
  split
  case h_1    => exact .ok (.map (List.forall_mem_nil _) (List.forall_mem_nil _))
  case h_2 hm => exact .ok (h.member? hm)
  case h_3    => exact .error rfl

theorem tells_optionalText (h : (Datum.map es).IsModest) : Tells (optionalText es name path) := by
  rw [optionalText]
  split
  case h_1    => exact .ok _
  case h_2 hm =>
    split
    case h_3 => exact (tells_textOf (h.member? hm)).map
    all_goals exact .error rfl

theorem tells_optionalFlag : Tells (optionalFlag es name path) := by
  rw [optionalFlag]
  split
  case h_1 => exact .ok _
  case h_2 =>
    split
    case h_3 | h_4 => exact .error rfl
    all_goals exact .ok _

theorem tells_buildPlace {id : String} (h : d.IsModest) : Tells (buildPlace id path d) := by
  cases d
  case map es =>
    refine Within.bind (within_optionalObject h) fun es' h' => ?_
    refine (tells_buildChoices h').bind fun _ => ?_
    exact (tells_optionalText h).bind fun _ => (tells_optionalText h).bind fun _ => tells_optionalFlag.map
  all_goals exact .error rfl

-- From modest data a graph is built, or it can be told why not.
theorem tells_build (h : d.IsModest) : Tells (build d) := by
  cases d
  case map es =>
    refine Within.bind (within_optionalObject h) fun es' h' => ?_
    refine Tells.map (Tells.mapM fun e he => ?_)
    exact (tells_nameOf (h'.keys e he)).bind fun _ => (tells_buildPlace (h'.values e he)).map
  all_goals exact .error rfl

end Definition
end Gamebook
