import Mathlib
import Gamebook.Proofs.Yaml.Parsed
import Gamebook.Proofs.Yaml.Resolved
import Gamebook.Proofs.Yaml.Trimmed

namespace Gamebook
namespace Yaml

open Chain

-- A token that is no tag, and of which no line ends at the end of a plain text.
def Token.IsBare (t : Token) : Prop :=
  t.IsTrim ∧ ∀ handle suffix, t ≠ .tag handle suffix

theorem Token.not_isBare_tag (handle : Option String) (suffix : String) : ¬IsBare (.tag handle suffix) :=
  fun h => h.right handle suffix rfl

namespace Node

mutual
-- A node and all nodes in it.
def parts : Node → List Node
  | .seq a t xs => .seq a t xs :: partsOfItems xs
  | .map a t ps => .map a t ps :: partsOfPairs ps
  | x           => [x]

def partsOfItems : List Node → List Node
  | []      => []
  | x :: xs => parts x ++ partsOfItems xs

def partsOfPairs : List (Node × Node) → List Node
  | []           => []
  | (k, v) :: ps => parts k ++ parts v ++ partsOfPairs ps
end

def anchor? : Node → Option String
  | .alias _                                     => none
  | .scalar a _ _ _ | .seq a _ _ | .map a _ _ => a

-- What an alias stands for in a tree. Other nodes stand for themselves.
def unaliased (root : Node) : Node → Node
  | .alias name => (root.parts.find? (·.anchor? = some name)).getD .empty
  | x           => x

-- What a node is as the key of a pair, if it can be one.
def key? (root x : Node) : Option Scalar :=
  match root.unaliased x with
  | .scalar _ _ plain s => some (Typed.meaning plain s)
  | _                   => none

-- An alias inside of what it stands for.
def IsKnotted (root : Node) : Prop :=
  ∃ x ∈ root.parts, ∃ name, x.anchor? = some name ∧ .alias name ∈ x.parts

-- A tree without tags, in which no anchor comes twice.
structure IsComposed (root : Node) : Prop where
  bare     : Drawn Token.IsBare root
  distinct : (root.parts.filterMap anchor?).Nodup

-- All keys in a part of a tree can be keys.
def HasKeys (root x : Node) : Prop :=
  ∀ a t ps, .map a t ps ∈ x.parts → ∀ p ∈ ps, (root.key? p.1).isSome

variable {T : Token → Prop} {root x y z : Node} {xs : List Node} {ps : List (Node × Node)} {p : Node × Node}
  {a : Option String} {t : Option Tag} {plain : Bool} {s name : String} {seen seen' : List String}

-- A property of nodes, shown for what they are made of first.
theorem induct {P : Node → Prop} (link : ∀ name, P (.alias name)) (scalar : ∀ a t plain s, P (.scalar a t plain s))
    (seq : ∀ a t xs, (∀ x ∈ xs, P x) → P (.seq a t xs))
    (map : ∀ a t ps, (∀ p ∈ ps, P p.1 ∧ P p.2) → P (.map a t ps)) (x : Node) : P x := by
  obtain name | ⟨a, t, plain, s⟩ | ⟨a, t, xs⟩ | ⟨a, t, ps⟩ := x
  · exact link name
  · exact scalar a t plain s
  · exact seq a t xs fun x hx => induct link scalar seq map x
  · exact map a t ps fun p hp => ⟨induct link scalar seq map p.1, induct link scalar seq map p.2⟩
termination_by sizeOf x
decreasing_by
  · have := List.sizeOf_lt_of_mem hx
    simp only [Node.seq.sizeOf_spec]
    omega
  all_goals
    have := List.sizeOf_lt_of_mem hp
    cases p
    simp only [Node.map.sizeOf_spec, Prod.mk.sizeOf_spec] at this ⊢
    omega

theorem mem_partsOfItems : y ∈ partsOfItems xs ↔ ∃ x ∈ xs, y ∈ x.parts := by
  induction xs with
  | nil          => simp [partsOfItems]
  | cons x xs hi => simp [partsOfItems, hi]

theorem mem_partsOfPairs : y ∈ partsOfPairs ps ↔ ∃ p ∈ ps, y ∈ p.1.parts ∨ y ∈ p.2.parts := by
  induction ps with
  | nil          => simp [partsOfPairs]
  | cons p ps hi => simp [partsOfPairs, hi, or_assoc]

theorem mem_parts_seq : y ∈ (Node.seq a t xs).parts ↔ y = .seq a t xs ∨ ∃ x ∈ xs, y ∈ x.parts := by
  change y ∈ Node.seq a t xs :: partsOfItems xs ↔ _
  rw [List.mem_cons, mem_partsOfItems]

theorem mem_parts_map :
    y ∈ (Node.map a t ps).parts ↔ y = .map a t ps ∨ ∃ p ∈ ps, y ∈ p.1.parts ∨ y ∈ p.2.parts := by
  change y ∈ Node.map a t ps :: partsOfPairs ps ↔ _
  rw [List.mem_cons, mem_partsOfPairs]

theorem mem_parts_self (x : Node) : x ∈ x.parts := by
  cases x <;> exact List.mem_cons_self

theorem parts_trans (h : z ∈ y.parts) (h' : y ∈ x.parts) : z ∈ x.parts := by
  induction x using induct with
  | link | scalar => exact List.mem_singleton.mp h' ▸ h
  | seq a t xs hi   =>
    obtain rfl | ⟨x, hx, h'⟩ := mem_parts_seq.mp h'
    · exact h
    · exact mem_parts_seq.mpr (.inr ⟨x, hx, hi x hx h'⟩)
  | map a t ps hi   =>
    obtain rfl | ⟨p, hp, h'⟩ := mem_parts_map.mp h'
    · exact h
    · exact mem_parts_map.mpr (.inr ⟨p, hp, h'.imp (hi p hp).left (hi p hp).right⟩)

namespace Drawn

theorem mono {U : Token → Prop} (h : Drawn T x) (hu : ∀ t, T t → U t) : Drawn U x := by
  induction h with
  | tagged h       => exact .tagged (hu _ h)
  | link           => exact .link
  | empty          => exact .empty
  | scalar h       => exact .scalar (hu _ h)
  | seq _ hi       => exact .seq hi
  | map _ _ hk hv  => exact .map hk hv

theorem part (h : Drawn T x) (hy : y ∈ x.parts) : Drawn T y := by
  induction h with
  | tagged h       => exact .tagged h
  | link           => exact List.mem_singleton.mp hy ▸ .link
  | empty          => exact List.mem_singleton.mp hy ▸ .empty
  | scalar h       => exact List.mem_singleton.mp hy ▸ .scalar h
  | seq h hi       =>
    obtain rfl | ⟨x, hx, hy⟩ := mem_parts_seq.mp hy
    · exact .seq h
    · exact hi x hx hy
  | map hk hv ik iv =>
    obtain rfl | ⟨p, hp, hy | hy⟩ := mem_parts_map.mp hy
    · exact .map hk hv
    · exact ik p hp hy
    · exact iv p hp hy

variable (hn : ∀ handle suffix, ¬T (.tag handle suffix))
include hn

theorem of_scalar (h : Drawn T (.scalar a t plain s)) : t = none ∧ (s = "" ∧ plain ∨ T (.scalar s plain)) := by
  cases h with
  | tagged h => exact absurd h (hn _ _)
  | empty    => exact ⟨rfl, .inl ⟨rfl, rfl⟩⟩
  | scalar h => exact ⟨rfl, .inr h⟩

theorem of_seq (h : Drawn T (.seq a t xs)) : t = none ∧ ∀ x ∈ xs, Drawn T x := by
  cases h with
  | tagged h => exact absurd h (hn _ _)
  | seq h    => exact ⟨rfl, h⟩

theorem of_map (h : Drawn T (.map a t ps)) : t = none ∧ ∀ p ∈ ps, Drawn T p.1 ∧ Drawn T p.2 := by
  cases h with
  | tagged h  => exact absurd h (hn _ _)
  | map hk hv => exact ⟨rfl, fun p hp => ⟨hk p hp, hv p hp⟩⟩

end Drawn

-- The anchors that are seen are those of the tree. None of them comes twice.

theorem addAnchor_eq_ok (h : addAnchor seen a = .ok seen') :
    seen' = a.toList ++ seen ∧ (seen.Nodup → seen'.Nodup) := by
  cases a with
  | none   =>
    cases h
    exact ⟨rfl, id⟩
  | some a =>
    rw [addAnchor] at h
    split at h <;> cases h
    rename_i hn
    exact ⟨rfl, List.nodup_cons.mpr ∘ .intro (by simpa using hn)⟩

-- What the anchors of some nodes, one after the other, are seen to be.
def Adds (seen seen' : List String) (xs : List Node) : Prop :=
  seen' = (xs.filterMap anchor?).reverse ++ seen ∧ (seen.Nodup → seen'.Nodup)

theorem Adds.nil : Adds seen seen [] :=
  ⟨rfl, id⟩

theorem Adds.append {seen₁ seen₂ seen₃ : List String} {ys : List Node} (h : Adds seen₁ seen₂ xs)
    (h' : Adds seen₂ seen₃ ys) : Adds seen₁ seen₃ (xs ++ ys) :=
  ⟨by simp [h'.left, h.left], h'.right ∘ h.right⟩

theorem adds_singleton (h : addAnchor seen x.anchor? = .ok seen') : Adds seen seen' [x] := by
  obtain ⟨hs, hn⟩ := addAnchor_eq_ok h
  refine ⟨?_, hn⟩
  rw [hs]
  cases hx : x.anchor? <;> simp [hx]

mutual
theorem adds_anchors {x : Node} {seen seen' : List String} (h : anchors seen x = .ok seen') : Adds seen seen' x.parts := by
  match x with
  | .alias name         =>
    rw [anchors] at h
    split at h <;> cases h
    exact ⟨rfl, id⟩
  | .scalar a t plain s => exact adds_singleton h
  | .seq a t xs         =>
    obtain ⟨seen₁, h₁, h⟩ := bind_eq_ok.mp h
    exact (adds_singleton (x := .seq a t xs) h₁).append (adds_anchorsOfItems h)
  | .map a t ps         =>
    obtain ⟨seen₁, h₁, h⟩ := bind_eq_ok.mp h
    exact (adds_singleton (x := .map a t ps) h₁).append (adds_anchorsOfPairs h)

theorem adds_anchorsOfItems {xs : List Node} {seen seen' : List String} (h : anchorsOfItems seen xs = .ok seen') :
    Adds seen seen' (partsOfItems xs) := by
  match xs with
  | []      =>
    cases h
    exact .nil
  | x :: xs =>
    obtain ⟨seen₁, h₁, h⟩ := bind_eq_ok.mp h
    exact (adds_anchors h₁).append (adds_anchorsOfItems h)

theorem adds_anchorsOfPairs {ps : List (Node × Node)} {seen seen' : List String}
    (h : anchorsOfPairs seen ps = .ok seen') : Adds seen seen' (partsOfPairs ps) := by
  match ps with
  | []           =>
    cases h
    exact .nil
  | (k, v) :: ps =>
    obtain ⟨seen₁, h₁, h⟩ := bind_eq_ok.mp h
    obtain ⟨seen₂, h₂, h⟩ := bind_eq_ok.mp h
    exact ((adds_anchors h₁).append (adds_anchors h₂)).append (adds_anchorsOfPairs h)
end

theorem nodup_anchors (h : anchors [] x = .ok seen) : (x.parts.filterMap anchor?).Nodup := by
  obtain ⟨hs, hn⟩ := adds_anchors h
  simpa [hs] using hn List.nodup_nil

theorem find?_of_nodup (hn : (xs.filterMap anchor?).Nodup) (hx : x ∈ xs) (ha : x.anchor? = some name) :
    xs.find? (·.anchor? = some name) = some x := by
  induction xs with
  | nil          => cases hx
  | cons y xs hi =>
    by_cases hy : y.anchor? = some name
    case neg =>
      have hx : x ∈ xs := (List.mem_cons.mp hx).resolve_left fun h => hy (h ▸ ha)
      rw [List.find?_cons_of_neg (by simpa using hy)]
      exact hi (hn.sublist (List.Sublist.filterMap anchor? (List.sublist_cons_self y xs))) hx
    case pos =>
      rw [List.filterMap_cons_some hy, List.nodup_cons] at hn
      rw [List.find?_cons_of_pos (by simpa using hy)]
      rcases List.mem_cons.mp hx with rfl | hx
      · rfl
      · exact absurd (List.mem_filterMap.mpr ⟨x, hx, ha⟩) hn.left

theorem unaliased_of_anchor (hn : (root.parts.filterMap anchor?).Nodup) (hx : x ∈ root.parts)
    (ha : x.anchor? = some name) : root.unaliased (.alias name) = x := by
  rw [unaliased, find?_of_nodup hn hx ha, Option.getD_some]

theorem unaliased_of_anchor? (ha : x.anchor? = some name) : root.unaliased x = x := by
  cases x <;> first | rfl | cases ha

-- What a node shows and is as a key depends on what it stands for.

theorem key?_congr (h : root.unaliased x = root.unaliased y) : root.key? x = root.key? y := by
  rw [key?, h, key?]

end Node
end Yaml
end Gamebook
