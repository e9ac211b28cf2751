import Mathlib
import Gamebook.Proofs.Yaml.Document
import Gamebook.Proofs.Yaml.Nodes
import Gamebook.Proofs.Yaml.Resolved
import Gamebook.Yaml.Reading

namespace Gamebook
namespace Yaml

-- Entries that are put into a map one by one.
def gather (es : List (Scalar × Datum)) : List (Scalar × Datum) :=
  es.foldl (fun es e => Datum.put e.1 e.2 es) []

-- What data stands for once it has been written and read.
mutual
def echoOf : Json → Datum
  | .str s  => .text (heard s)
  | .arr xs => .list (echoOfItems xs)
  | .obj ms => .map (gather (echoOfMembers ms))
  | j       => .text (String.ofList (Json.writeCompact j))

def echoOfItems : List Json → List Datum
  | []      => []
  | x :: xs => echoOf x :: echoOfItems xs

def echoOfMembers : List (String × Json) → List (Scalar × Datum)
  | []           => []
  | (k, x) :: ms => (.text (heard k), echoOf x) :: echoOfMembers ms
end

variable {d fuel : Nat} {s : String} {j : Json} {xs : List Json} {m : String × Json} {ms : List (String × Json)}
  {es : List (Scalar × Datum)}

-- Entries with texts as keys.

theorem same_text {t : String} : Scalar.same (.text s) (.text t) ↔ s = t := by
  simp [Scalar.same, Scalar.number?]

theorem put_of_not_mem {d : Datum} (ht : ∀ e ∈ es, ∃ t, e.1 = .text t)
    (hn : .text s ∉ es.map Prod.fst) : Datum.put (.text s) d es = es ++ [(.text s, d)] := by
  induction es with
  | nil => rfl
  | cons e es hi =>
    have ⟨⟨t, he⟩, ht⟩ := List.forall_mem_cons.mp ht
    rw [List.map_cons, List.mem_cons, not_or, he] at hn
    have hne : ¬Scalar.same e.1 (.text s) := by
      rw [he, same_text]
      exact fun h => hn.left (congrArg Scalar.text h.symm)
    rw [Datum.put, if_neg hne, hi ht hn.right, List.cons_append]

theorem mem_keys_put {k k' : Scalar} {d : Datum} (h : k' ∈ (Datum.put k d es).map Prod.fst) :
    k' = k ∨ k' ∈ es.map Prod.fst := by
  induction es with
  | nil => exact .inl (List.mem_singleton.mp h)
  | cons e es hi =>
    rw [Datum.put] at h
    split at h
    case isTrue  => exact .inr h
    case isFalse =>
      cases List.mem_cons.mp h
      case inl h => exact .inr (h ▸ List.mem_cons_self)
      case inr h => exact (hi h).imp_right (List.mem_cons_of_mem _)

theorem mem_keys_foldl_put {k : Scalar} {es' : List (Scalar × Datum)}
    (h : k ∈ (es.foldl (fun es e => Datum.put e.1 e.2 es) es').map Prod.fst) :
    k ∈ es'.map Prod.fst ∨ k ∈ es.map Prod.fst := by
  induction es generalizing es' with
  | nil => exact .inl h
  | cons e es hi =>
    cases hi h
    case inl h => exact (mem_keys_put h).elim (fun h => .inr (h ▸ List.mem_cons_self)) .inl
    case inr h => exact .inr (List.mem_cons_of_mem _ h)

theorem mem_keys_gather {k : Scalar} (h : k ∈ (gather es).map Prod.fst) : k ∈ es.map Prod.fst :=
  (mem_keys_foldl_put h).resolve_left List.not_mem_nil

theorem foldl_put_eq (es' : List (Scalar × Datum)) (ht : ∀ e ∈ es' ++ es, ∃ t, e.1 = .text t)
    (hn : ((es' ++ es).map Prod.fst).Nodup) : es.foldl (fun es e => Datum.put e.1 e.2 es) es' = es' ++ es := by
  induction es generalizing es' with
  | nil => simp
  | cons e es hi =>
    have ⟨t, he⟩ := ht e (by simp)
    have hm : .text t ∉ es'.map Prod.fst := by
      intro hm
      rw [List.map_append, List.nodup_append] at hn
      exact hn.right.right _ hm _ (by simp) he.symm
    have hp : Datum.put e.1 e.2 es' = es' ++ [e] := by
      rw [he, put_of_not_mem (fun e hm => ht e (List.mem_append_left _ hm)) hm, ← he]
    rw [List.foldl_cons, hp, hi _ (by simpa using ht) (by simpa using hn), List.append_assoc, List.singleton_append]

theorem gather_eq_self (ht : ∀ e ∈ es, ∃ t, e.1 = .text t) (hn : (es.map Prod.fst).Nodup) : gather es = es :=
  foldl_put_eq [] ht hn

theorem not_mem_nullWords_of_isText (h : Implicit.isText s.toList) : s ∉ Typed.nullWords := by
  have hw : ∀ w ∈ Typed.nullWords, ¬Implicit.isText w.toList := by decide
  exact fun hn => hw s hn h

theorem getLast?_of_allowsPlain {cs : List Char} (h : Style.allowsPlain cs) : cs.getLast? ≠ some '\n' := by
  intro hn
  simp only [Style.allowsPlain, Style.isMultiline, Bool.and_eq_true, Bool.not_eq_true', List.any_eq_false] at h
  exact h.1.1.1.1.2 _ (List.mem_of_getLast? hn) rfl

-- A text is never taken for null.
theorem read_heard : Typed.read none (isPlain s) (heard s) = .ok (.text (heard s)) := by
  have hc := choose_cases s.toList
  unfold isPlain heard
  generalize Style.choose s.toList = style at hc ⊢
  rcases hc with ⟨rfl, hp, ht⟩ | ⟨rfl, _⟩ | rfl
  · have hn : ¬(True ∧ s ∈ Typed.nullWords) := fun h => not_mem_nullWords_of_isText ht h.right
    exact (Typed.read_untagged fun _ => getLast?_of_allowsPlain hp).trans (by simp [Typed.meaning, hn])
  · rfl
  · rfl

namespace Node

variable {env : Anchors}

theorem build_scalar : build fuel env (.scalar none none (isPlain s) (heard s)) = (⟨.text (heard s), none⟩, env) := by
  rw [build, read_heard]
  rfl

theorem build_flag {b : Bool} :
    build fuel env (ofJson (.bool b)) = (⟨.text (String.ofList (Json.writeCompact (.bool b))), none⟩, env) := by
  rw [ofJson, build]
  · cases b <;> rfl
  all_goals simp

-- What a node stands for, whatever is known of anchors.
def Stands (x : Node) (d : Datum) : Prop :=
  ∀ {fuel env}, build fuel env x = (⟨d, none⟩, env)

theorem buildItems_stands (hx : ∀ x ∈ xs, Stands (ofJson x) (echoOf x)) :
    buildItems false fuel env (ofItems xs) = (echoOfItems xs, none, env) := by
  induction xs with
  | nil =>
    rw [ofItems, buildItems]
    rfl
  | cons x xs hi =>
    obtain ⟨hx, hxs⟩ := List.forall_mem_cons.mp hx
    have hx : build fuel env (ofJson x) = (⟨echoOf x, none⟩, env) := hx
    rw [ofItems, buildItems]
    simp only [hx, hi hxs]
    rfl

theorem buildPairs_stands {own : List (Scalar × Datum)} (hm : ∀ m ∈ ms, Stands (ofJson m.2) (echoOf m.2)) :
    buildPairs fuel env { own } (ofEntries ms) = ({ own := own ++ echoOfMembers ms }, env) := by
  induction ms generalizing own with
  | nil =>
    rw [ofEntries, buildPairs, echoOfMembers, List.append_nil]
  | cons m ms hi =>
    obtain ⟨k, x⟩ := m
    obtain ⟨hx, hms⟩ := List.forall_mem_cons.mp hm
    have ht : (env.target (.scalar none none (isPlain k) (heard k))).tag? ≠ some .merge := by
      have h := Typed.typeOf_none (isPlain k) (heard k)
      simp only [Anchors.target, tag?]
      rintro hm
      simp [hm] at h
    have hx : build fuel env (ofJson x) = (⟨echoOf x, none⟩, env) := hx
    rw [ofEntries, buildPairs]
    rotate_left
    · intro _ _ _ h
      cases h
    rw [if_neg ht]
    simp only [build_scalar, hx]
    have h := @hi (own ++ [(.text (heard k), echoOf x)]) hms
    rw [List.append_assoc] at h
    exact h

theorem stands_of_shallow (h : Shallow d j) : Stands (ofJson j) (echoOf j) := by
  induction h with
  | str s  => exact build_scalar
  | bool b => exact build_flag
  | @arr xs _ _ hi =>
    intro fuel env
    have h : buildItems false fuel env (ofItems xs) = _ := buildItems_stands hi
    rw [ofJson, build]
    simp only [Anchors.add, Option.bind_none, reduceCtorEq, decide_false, h]
    rfl
  | @obj ms _ _ hi =>
    intro fuel env
    have h : buildPairs fuel env {} (ofEntries ms) = _ := buildPairs_stands hi
    rw [ofJson, build]
    simp only [Anchors.add, h]
    rfl

-- There are no anchors in such a tree.

theorem anchorsOfItems_eq {seen : List String} (hx : ∀ x ∈ xs, anchors seen (ofJson x) = .ok seen) :
    anchorsOfItems seen (ofItems xs) = .ok seen := by
  induction xs with
  | nil          => rfl
  | cons x xs hi =>
    have ⟨hx, hxs⟩ := List.forall_mem_cons.mp hx
    rw [ofItems, anchorsOfItems, hx, Chain.ok_bind, hi hxs]

theorem anchorsOfPairs_eq {seen : List String} (hm : ∀ m ∈ ms, anchors seen (ofJson m.2) = .ok seen) :
    anchorsOfPairs seen (ofEntries ms) = .ok seen := by
  induction ms with
  | nil          => rfl
  | cons m ms hi =>
    obtain ⟨k, x⟩ := m
    have ⟨hx, hms⟩ := List.forall_mem_cons.mp hm
    have hk : anchors seen (.scalar none none (isPlain k) (heard k)) = .ok seen := rfl
    rw [ofEntries, anchorsOfPairs, hk, Chain.ok_bind, hx, Chain.ok_bind, hi hms]

theorem anchors_of_shallow {seen : List String} (h : Shallow d j) : anchors seen (ofJson j) = .ok seen := by
  induction h with
  | str       => rfl
  | bool      => rfl
  | arr _ hi  => exact anchorsOfItems_eq hi
  | obj _ hi  => exact anchorsOfPairs_eq hi

end Node

-- What is read of data that has been written.
theorem read_render (h : ∀ e ∈ m :: ms, Shallow d e.2) (hw : 2 * d + 2 < Pen.width) :
    read (render (.obj (m :: ms)))
      = if fits (.obj (m :: ms)) then .ok (echoOf (.obj (m :: ms))) else .error .malformed := by
  have hj : Shallow (d + 1) (.obj (m :: ms)) := .obj h
  rw [read, scan_render h hw]
  split
  case isTrue =>
    have hb : Node.build Node.unfolding [] (Node.ofJson (.obj (m :: ms))) = _ := Node.stands_of_shallow hj
    rw [Chain.ok_bind, Node.ofTokens_tokens hj, Chain.ok_bind]
    simp only [Node.anchors_of_shallow hj, Chain.ok_bind, hb]
    rfl
  case isFalse => rfl

end Yaml
end Gamebook
