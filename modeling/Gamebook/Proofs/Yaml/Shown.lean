import Mathlib
import Gamebook.Proofs.Ordered
import Gamebook.Proofs.Yaml.Parts
import Gamebook.Yaml.Reading

namespace Gamebook

-- Text and null.
def Scalar.IsTextual : Scalar → Prop
  | null | text _ => True
  | _             => False

-- Data that is made of nothing else.
inductive Datum.IsTextual : Datum → Prop
  | scalar (h : s.IsTextual)                                                : IsTextual (.scalar s)
  | list (h : ∀ d ∈ ds, IsTextual d)                                        : IsTextual (.list ds)
  | map (hk : ∀ e ∈ es, e.fst.IsTextual) (hv : ∀ e ∈ es, IsTextual e.snd) : IsTextual (.map es)

theorem Datum.IsTextual.parts {es : List (Scalar × Datum)} (h : (Datum.map es).IsTextual) :
    (∀ e ∈ es, e.1.IsTextual) ∧ ∀ e ∈ es, e.2.IsTextual := by
  cases h with
  | map hk hv => exact ⟨hk, hv⟩

theorem Datum.IsTextual.of_scalar {k : Scalar} (h : (Datum.scalar k).IsTextual) : k.IsTextual := by
  cases h
  assumption

namespace Yaml

open Chain

-- Data that shows what a node is, as far as a depth. Of pairs with the same key the last one counts.
def Node.Shows (root : Node) : Nat → Node → Datum → Prop
  | 0,     _, _ => True
  | n + 1, x, d => match root.unaliased x with
    | .alias _            => False
    | .scalar _ _ plain s => d = .scalar (Typed.meaning plain s)
    | .seq _ _ xs         => ∃ ds, d = .list ds ∧ List.Forall₂ (Node.Shows root n) xs ds
    | .map _ _ ps         => ∃ es : List (Scalar × Datum), d = .map (Ordered.ofList es).entries ∧
      List.Forall₂ (fun p e => root.key? p.1 = some e.1 ∧ Node.Shows root n p.2 e.2) ps es

variable {root x y : Node} {xs : List Node} {ps : List (Node × Node)} {a : Option String} {t : Option Tag} {plain : Bool}
  {s name : String} {seen seen' : List String} {env env' env'' : Anchors} {b : Built} {b' : Option Built} {d : Datum}
  {f : Filling} {n fuel depth : Nat}

theorem Node.Shows.congr (h : root.unaliased x = root.unaliased y) (hs : root.Shows n x d) : root.Shows n y d := by
  cases n with
  | zero   => trivial
  | succ n =>
    rw [Node.Shows] at hs ⊢
    rwa [← h]

-- What is known of data that are built of a node. They show the node if all keys can be keys, and if
-- not there is a fault in them.
structure Built.Tells (root : Node) (depth : Nat) (x : Node) (b : Built) : Prop where
  textual : b.datum.IsTextual
  text    : ∀ k, root.key? x = some k → b.datum = .scalar k
  bulk    : 0 < depth → ∀ k, b.datum = .scalar k → (root.key? x).isSome
  shows   : root.HasKeys root → ∀ n, n ≤ depth ∨ ¬root.IsKnotted → root.Shows n x b.datum
  fault   : root.HasKeys root → b.fault = none

namespace Built.Tells

theorem congr (hb : b.Tells root depth x) (h : root.unaliased x = root.unaliased y) : b.Tells root depth y where
  textual       := hb.textual
  text          := Node.key?_congr h ▸ hb.text
  bulk          := Node.key?_congr h ▸ hb.bulk
  shows hk n hn := (hb.shows hk n hn).congr h
  fault         := hb.fault

theorem mono {depth' : Nat} (hb : b.Tells root depth x) (h : depth' ≤ depth) : b.Tells root depth' x where
  textual       := hb.textual
  text          := hb.text
  bulk hd       := hb.bulk (Nat.lt_of_lt_of_le hd h)
  shows hk n hn := hb.shows hk n (hn.imp_left (Nat.le_trans · h))
  fault         := hb.fault

end Built.Tells

namespace Anchors

theorem find_add : (env.add a x b').find name = if a = some name then some ⟨x, b'⟩ else env.find name := by
  cases a with
  | none   => rfl
  | some a => by_cases ha : a = name <;> simp [find, add, ha]

theorem find_add_eq_some {y : Anchored} : (env.add a x b').find name = some y ↔
    a = some name ∧ ⟨x, b'⟩ = y ∨ a ≠ some name ∧ env.find name = some y := by
  rw [find_add]
  split
  case isTrue ha  => simp [ha]
  case isFalse ha => simp [ha]

-- An anchor is known.
def Knows (env : Anchors) (name : String) : Prop :=
  (env.find name).isSome

-- What is known of an anchor: the data that have been built of its node, unless it is a collection that
-- is still being built.
structure Tells (root : Node) (fuel : Nat) (env : Anchors) : Prop where
  node  : ∀ name y, env.find name = some y → y.node ∈ root.parts ∧ y.node.anchor? = some name
  built : ∀ name y b, env.find name = some y → y.built = some b → b.Tells root (fuel + 1) y.node
  begun : ∀ name y, env.find name = some y → y.built = none → root.key? y.node = none ∧
    ∃ seen seen', Node.anchors seen y.node = .ok seen' ∧ ∀ n ∈ seen, env.Knows n

-- What is still being built is around a node.
def Surrounds (env : Anchors) (x : Node) : Prop :=
  ∀ name y, env.find name = some y → y.built = none → x ∈ y.node.parts

-- What is known after some more nodes have been built.
structure Grows (root : Node) (fuel : Nat) (seen : List String) (env env' : Anchors) : Prop where
  tells  : env'.Tells root fuel
  known  : ∀ n ∈ seen, env'.Knows n
  grows  : ∀ n, env.Knows n → env'.Knows n
  begun  : ∀ name y, env'.find name = some y → y.built = none → env.find name = some y

theorem knows_add (h : env.Knows name) : (env.add a x b').Knows name := by
  rw [Knows, find_add]
  split
  case isTrue  => rfl
  case isFalse => exact h

namespace Tells

theorem mono (h : env.Tells root (fuel + 1)) : env.Tells root fuel where
  node  := h.node
  built := fun name y b hf hb => (h.built name y b hf hb).mono (Nat.le_succ _)
  begun := h.begun

-- A collection is begun.
theorem enter (h : env.Tells root fuel) (hx : x ∈ root.parts) (hk : root.key? x = none)
    (hs : Node.anchors seen x = .ok seen') (hn : ∀ n ∈ seen, env.Knows n) :
    (env.add x.anchor? x none).Tells root fuel where
  node name y hf := by
    obtain ⟨ha, rfl⟩ | ⟨_, hf⟩ := find_add_eq_some.mp hf
    · exact ⟨hx, ha⟩
    · exact h.node name y hf
  built name y b hf hb := by
    obtain ⟨_, rfl⟩ | ⟨_, hf⟩ := find_add_eq_some.mp hf
    · cases hb
    · exact h.built name y b hf hb
  begun name y hf hb := by
    obtain ⟨_, rfl⟩ | ⟨_, hf⟩ := find_add_eq_some.mp hf
    · exact ⟨hk, seen, seen', hs, fun n hm => knows_add (hn n hm)⟩
    · obtain ⟨hk, seen, seen', hs, hn⟩ := h.begun name y hf hb
      exact ⟨hk, seen, seen', hs, fun n hm => knows_add (hn n hm)⟩

-- A node has been built.
theorem leave (h : env.Tells root fuel) (hx : x ∈ root.parts) (hb : b.Tells root (fuel + 1) x) :
    (env.add x.anchor? x (some b)).Tells root fuel where
  node name y hf := by
    obtain ⟨ha, rfl⟩ | ⟨_, hf⟩ := find_add_eq_some.mp hf
    · exact ⟨hx, ha⟩
    · exact h.node name y hf
  built name y b' hf hb' := by
    obtain ⟨_, rfl⟩ | ⟨_, hf⟩ := find_add_eq_some.mp hf
    · exact Option.some.inj hb' ▸ hb
    · exact h.built name y b' hf hb'
  begun name y hf hb' := by
    obtain ⟨_, rfl⟩ | ⟨_, hf⟩ := find_add_eq_some.mp hf
    · cases hb'
    · obtain ⟨hk, seen, seen', hs, hn⟩ := h.begun name y hf hb'
      exact ⟨hk, seen, seen', hs, fun n hm => knows_add (hn n hm)⟩

end Tells

namespace Grows

theorem rfl (h : env.Tells root fuel) (hn : ∀ n ∈ seen, env.Knows n) : Grows root fuel seen env env :=
  ⟨h, hn, fun _ => id, fun _ _ hf _ => hf⟩

theorem trans (h : Grows root fuel seen env env') (h' : Grows root fuel seen' env' env'') :
    Grows root fuel seen' env env'' where
  tells := h'.tells
  known := h'.known
  grows n hn := h'.grows n (h.grows n hn)
  begun name y hf hb := h.begun name y (h'.begun name y hf hb) hb

-- A node has been built, and may have been begun before others were.
theorem close {env₁ : Anchors} (h : Grows root fuel seen env₁ env') (hx : x ∈ root.parts)
    (hb : b.Tells root (fuel + 1) x) (he : ∀ name, x.anchor? ≠ some name → env₁.find name = env.find name)
    (hk : ∀ n, env.Knows n → env₁.Knows n) (hs : ∀ n ∈ seen', n ∈ seen ∨ x.anchor? = some n) :
    Grows root fuel seen' env (env'.add x.anchor? x (some b)) where
  tells      := h.tells.leave hx hb
  known n hm := by
    rcases hs n hm with hm | ha
    · exact knows_add (h.known n hm)
    · rw [Knows, find_add, if_pos ha]
      exact Eq.refl true
  grows n hn := knows_add (h.grows n (hk n hn))
  begun name y hf hb' := by
    obtain ⟨_, rfl⟩ | ⟨ha, hf⟩ := find_add_eq_some.mp hf
    · cases hb'
    · exact he name ha ▸ h.begun name y hf hb'

end Grows

end Anchors

namespace Node

-- Some nodes of a tree are built next.
structure Follow (root : Node) (env : Anchors) (seen : List String) (xs : List Node) : Prop where
  part   : ∀ x ∈ xs, x ∈ root.parts
  known  : ∀ n ∈ seen, env.Knows n
  inside : ¬root.IsKnotted → ∀ x ∈ xs, env.Surrounds x

namespace Follow

variable {ys : List Node}

theorem mono (h : Follow root env seen xs) (hs : ys ⊆ xs) : Follow root env seen ys where
  part x hx := h.part x (hs hx)
  known     := h.known
  inside hn x hx := h.inside hn x (hs hx)

theorem grow (h : Follow root env seen xs) (hg : Anchors.Grows root fuel seen' env env') : Follow root env' seen' xs where
  part  := h.part
  known := hg.known
  inside hn x hx name y hf hb := h.inside hn x hx name y (hg.begun name y hf hb) hb

theorem enter (h : Follow root env seen [x]) (ha : addAnchor seen x.anchor? = .ok seen') (hy : ∀ y ∈ ys, y ∈ x.parts) :
    Follow root (env.add x.anchor? x none) seen' ys where
  part y hm := parts_trans (hy y hm) (h.part x (List.mem_singleton_self x))
  known n hm := by
    rw [(addAnchor_eq_ok ha).left, List.mem_append, Option.mem_toList] at hm
    rcases hm with hm | hm
    · rw [Anchors.Knows, Anchors.find_add, if_pos hm]
      rfl
    · exact Anchors.knows_add (h.known n hm)
  inside hn y hm name z hf hb := by
    obtain ⟨_, rfl⟩ | ⟨_, hf⟩ := Anchors.find_add_eq_some.mp hf
    · exact hy y hm
    · exact parts_trans (hy y hm) (h.inside hn x (List.mem_singleton_self x) name z hf hb)

end Follow

-- How deep the data of a node show what it is.
def reach (fuel : Nat) : Node → Nat
  | .alias _ => fuel
  | _        => fuel + 1

theorem le_reach (fuel : Nat) (x : Node) : fuel ≤ x.reach fuel := by
  cases x <;> simp [reach]

structure Builds (root : Node) (fuel : Nat) (seen : List String) (env : Anchors) (x : Node) (r : Built × Anchors) :
    Prop where
  tells : r.1.Tells root (x.reach fuel) x
  keys  : 0 < fuel → r.1.fault = none → root.HasKeys x
  grows : Anchors.Grows root fuel seen env r.2

-- What has been built of nodes with less fuel.
def BuildsBelow (root : Node) (fuel : Nat) : Prop :=
  ∀ n, fuel = n + 1 → ∀ env x seen seen', env.Tells root n → Follow root env seen [x] → anchors seen x = .ok seen' →
    (build n env x).1.Tells root (x.reach n) x

theorem knotted_of_begun {y : Anchored} (he : env.Tells root fuel) (hf : Follow root env seen [.alias name])
    (hy : env.find name = some y) (hb : y.built = none) : root.IsKnotted := by
  by_contra hn
  obtain ⟨hp, ha⟩ := he.node name y hy
  exact hn ⟨y.node, hp, name, ha, hf.inside hn _ (List.mem_singleton_self _) name y hy hb⟩

theorem hasKeys_of_flat (h : x.parts = [x]) (hx : ∀ a t ps, x ≠ .map a t ps) : root.HasKeys x := by
  intro a t ps hm
  rw [h, List.mem_singleton] at hm
  exact absurd hm.symm (hx a t ps)

theorem builds_alias (hn : (root.parts.filterMap anchor?).Nodup) (hb : BuildsBelow root fuel) (he : env.Tells root fuel)
    (hf : Follow root env seen [.alias name]) (hs : anchors seen (.alias name) = .ok seen') :
    Builds root fuel seen' env (.alias name) (build fuel env (.alias name)) := by
  rw [anchors] at hs
  split at hs <;> cases hs
  rename_i hm
  obtain ⟨y, hy⟩ := Option.isSome_iff_exists.mp (hf.known name (List.contains_iff_mem.mp hm))
  obtain ⟨hp, ha⟩ := he.node name y hy
  have hu : root.unaliased y.node = root.unaliased (.alias name) := by
    rw [unaliased_of_anchor? ha, unaliased_of_anchor hn hp ha]
  have hk : root.HasKeys (.alias name) := hasKeys_of_flat rfl nofun
  rw [build, hy]
  obtain ⟨y, _ | b⟩ := y
  case some => exact ⟨((he.built name _ b hy rfl).congr hu).mono (Nat.le_succ _), fun _ _ => hk, .rfl he hf.known⟩
  case none =>
    have hK := knotted_of_begun he hf hy rfl
    obtain ⟨hc, seen₁, seen₂, hs, hm⟩ := he.begun name _ hy rfl
    refine ⟨?_, fun _ _ => hk, by cases fuel <;> exact .rfl he hf.known⟩
    cases fuel with
    | zero      => exact {
        textual       := .scalar trivial
        text k hk     := by rw [← key?_congr hu, hc] at hk; cases hk
        bulk h0       := absurd h0 (Nat.lt_irrefl 0)
        shows _ n hn  := by obtain rfl := Nat.le_zero.mp (hn.resolve_right (not_not.mpr hK)); trivial
        fault _       := rfl
      }
    | succ fuel =>
      have hr : y.reach fuel = fuel + 1 := by cases y <;> first | rfl | cases ha
      have hf' : Follow root env seen₁ [y] := ⟨List.forall_mem_singleton.mpr hp, hm, fun hn => absurd hK hn⟩
      exact (hr ▸ hb fuel rfl env y seen₁ seen₂ he.mono hf' hs).congr hu

theorem tells_meaning (root : Node) (depth : Nat) :
    Built.Tells root depth (.scalar a t plain s) ⟨.scalar (Typed.meaning plain s), none⟩ where
  textual := by
    refine .scalar ?_
    rw [Typed.meaning]
    split <;> trivial
  text k hk     := congrArg Datum.scalar (Option.some.inj hk)
  bulk _ _ _    := rfl
  shows _ n _   := by cases n <;> trivial
  fault _       := rfl

theorem builds_scalar (hx : Drawn Token.IsBare (.scalar a t plain s)) (he : env.Tells root fuel)
    (hf : Follow root env seen [.scalar a t plain s]) (hs : anchors seen (.scalar a t plain s) = .ok seen') :
    Builds root fuel seen' env (.scalar a t plain s) (build fuel env (.scalar a t plain s)) := by
  obtain ⟨rfl, ht⟩ := hx.of_scalar Token.not_isBare_tag
  have hl : plain → s.toList.getLast? ≠ some '\n' := by
    rcases ht with ⟨rfl, _⟩ | ht
    · simp
    · rintro rfl
      exact ht.left
  have hb : build fuel env (.scalar a none plain s) = (⟨.scalar (Typed.meaning plain s), none⟩,
      env.add a (.scalar a none plain s) (some ⟨.scalar (Typed.meaning plain s), none⟩)) := by
    rw [build, Option.bind_none, Typed.read_untagged hl]
    rfl
  have hp := hf.part _ (List.mem_singleton_self _)
  rw [hb]
  refine ⟨tells_meaning root _, fun _ _ => hasKeys_of_flat rfl (by simp), ?_⟩
  refine (Anchors.Grows.rfl he hf.known).close hp (tells_meaning root _) (fun _ _ => rfl) (fun _ => id) fun n hm => ?_
  rw [(addAnchor_eq_ok hs).left, List.mem_append, Option.mem_toList] at hm
  exact hm.symm

end Node

theorem Built.earlier_eq_none {p q : Option (Nat × Fault)} : earlier p q = none ↔ p = none ∧ q = none := by
  cases p <;> cases q <;> simp [earlier]

theorem Built.inside_eq_none {p : Option (Nat × Fault)} : inside p = none ↔ p = none :=
  Option.map_eq_none_iff

-- Keys that are texts or null are one if they are the same.
theorem same_iff {k l : Scalar} (hk : k.IsTextual) (hl : l.IsTextual) : k.same l ↔ k = l := by
  cases k
  case null | text =>
    cases l
    case null | text => simp [Scalar.same, Scalar.number?]
    all_goals cases hl
  all_goals cases hk

theorem put_eq {k : Scalar} {es : List (Scalar × Datum)} (hk : k.IsTextual) (hs : ∀ e ∈ es, e.1.IsTextual) :
    Datum.put k d es = Ordered.put k d es := by
  induction es with
  | nil          => rfl
  | cons e es hi =>
    obtain ⟨he, hs⟩ := List.forall_mem_cons.mp hs
    simp only [Datum.put, Ordered.put, same_iff he hk, hi hs]

theorem foldl_put_eq_insert {es : List (Scalar × Datum)} {m : Ordered Scalar Datum}
    (hm : ∀ e ∈ m.entries, e.1.IsTextual) (hs : ∀ e ∈ es, e.1.IsTextual) :
    es.foldl (fun es e => Datum.put e.1 e.2 es) m.entries = (es.foldl (fun m e => m.insert e.1 e.2) m).entries := by
  induction es generalizing m with
  | nil          => rfl
  | cons e es hi =>
    obtain ⟨he, hs⟩ := List.forall_mem_cons.mp hs
    have hm' : ∀ e' ∈ (m.insert e.1 e.2).entries, e'.1.IsTextual := by
      intro e' he'
      rcases Ordered.mem_of_mem_put he' with rfl | he'
      · exact he
      · exact hm e' he'
    rw [List.foldl_cons, List.foldl_cons, put_eq he hm]
    exact hi hm' hs

-- The entries that the pairs of a mapping come to.
structure Filling.Tells (root : Node) (fuel : Nat) (ps : List (Node × Node)) (f : Filling) : Prop where
  textual : (Datum.map f.own).IsTextual
  shows   : root.HasKeys root → ∀ n, n ≤ fuel ∨ ¬root.IsKnotted →
    List.Forall₂ (fun p e => root.key? p.1 = some e.1 ∧ root.Shows n p.2 e.2) ps f.own
  fault   : root.HasKeys root → f.fault = none
  merged  : f.merged = []
  unmixed : f.mergeFault = none

namespace Filling

theorem tells_empty : Filling.Tells root fuel [] {} where
  textual     := .map (List.forall_mem_nil _) (List.forall_mem_nil _)
  shows _ _ _ := .nil
  fault _     := rfl
  merged      := rfl
  unmixed     := rfl

variable {k v : Node} {kb vb : Built}

theorem addPair_of_scalar {k : Scalar} (h : kb.datum = .scalar k) : f.addPair kb vb =
    { f with own := f.own ++ [(k, vb.datum)], fault := Built.earlier f.fault (Built.earlier kb.fault vb.fault) } := by
  rw [addPair, h]
  rfl

-- A pair is added without a fault if its key can be one.
theorem fault_addPair (h : (f.addPair kb vb).fault = none) :
    f.fault = none ∧ kb.fault = none ∧ vb.fault = none ∧ ∃ k, kb.datum = .scalar k := by
  rw [addPair] at h
  split at h
  case h_1 k hk =>
    simp only [Function.comp_apply, Built.earlier_eq_none] at h
    exact ⟨h.left, h.right.left, h.right.right, k, hk⟩
  case h_2 =>
    simp only [Function.comp_apply, Built.earlier_eq_none] at h
    exact absurd h.right.right nofun

theorem Tells.addPair (h : f.Tells root fuel ps) (hk : kb.Tells root (k.reach fuel) k)
    (hv : vb.Tells root (v.reach fuel) v) (hr : root.HasKeys root → (root.key? k).isSome) :
    (f.addPair kb vb).Tells root fuel (ps ++ [(k, v)]) := by
  by_cases hs : ∃ s, kb.datum = .scalar s
  case pos =>
    obtain ⟨s, hs⟩ := hs
    obtain ⟨hok, hov⟩ := h.textual.parts
    have hst : s.IsTextual := Datum.IsTextual.of_scalar (hs ▸ hk.textual)
    rw [addPair_of_scalar hs]
    exact {
      textual := .map (List.forall_mem_append.mpr ⟨hok, List.forall_mem_singleton.mpr hst⟩)
        (List.forall_mem_append.mpr ⟨hov, List.forall_mem_singleton.mpr hv.textual⟩)
      shows   := fun hkeys n hn => by
        obtain ⟨s', hs'⟩ := Option.isSome_iff_exists.mp (hr hkeys)
        obtain rfl : s = s' := Datum.scalar.inj (hs.symm.trans (hk.text s' hs'))
        refine List.rel_append (h.shows hkeys n hn) (.cons ⟨hs', ?_⟩ .nil)
        exact hv.shows hkeys n (hn.imp_left (Nat.le_trans · (v.le_reach fuel)))
      fault   := fun hkeys => by simp [h.fault hkeys, hk.fault hkeys, hv.fault hkeys, Built.earlier]
      merged  := h.merged
      unmixed := h.unmixed
    }
  case neg =>
    have hn : ¬root.HasKeys root := by
      intro hkeys
      obtain ⟨s, hs'⟩ := Option.isSome_iff_exists.mp (hr hkeys)
      exact hs ⟨s, hk.text s hs'⟩
    rw [Filling.addPair]
    split
    case h_1 s hs' => exact absurd ⟨s, hs'⟩ hs
    case h_2       => exact { h with shows := fun hkeys => absurd hkeys hn, fault := fun hkeys => absurd hkeys hn }

theorem Tells.entries (h : f.Tells root fuel ps) : f.entries = (Ordered.ofList f.own).entries := by
  rw [Filling.entries, h.merged, List.nil_append]
  exact foldl_put_eq_insert (m := .empty) (List.forall_mem_nil _) h.textual.parts.left

theorem Tells.isTextual (h : f.Tells root fuel ps) : (Datum.map f.entries).IsTextual := by
  obtain ⟨hk, hv⟩ := h.textual.parts
  rw [h.entries]
  exact .map (fun e he => hk e (Ordered.mem_of_mem_ofList he)) (fun e he => hv e (Ordered.mem_of_mem_ofList he))

theorem Tells.firstFault (h : f.Tells root fuel ps) : f.firstFault = Built.inside f.fault := by
  rw [Filling.firstFault, h.unmixed]
  rfl

end Filling

namespace Node

-- Without tags nothing is merged, and no key is that of a default value.

theorem tag?_ne_merge (h : Drawn Token.IsBare x) : x.tag? ≠ some .merge := by
  match x with
  | .alias _            => nofun
  | .scalar _ t plain s =>
    obtain ⟨rfl, _⟩ := h.of_scalar Token.not_isBare_tag
    rw [tag?]
    rcases Typed.typeOf_none plain s with h | h <;> simp [h]
  | .seq _ t _          =>
    obtain ⟨rfl, _⟩ := h.of_seq Token.not_isBare_tag
    nofun
  | .map _ t _          =>
    obtain ⟨rfl, _⟩ := h.of_map Token.not_isBare_tag
    nofun

theorem drawn_target (hd : Drawn Token.IsBare root) (he : env.Tells root fuel) (h : Drawn Token.IsBare x) :
    Drawn Token.IsBare (env.target x) := by
  match x with
  | .alias name =>
    rw [Anchors.target]
    cases hy : env.find name with
    | none   => exact .empty
    | some y => exact hd.part (he.node name y hy).left
  | .scalar .. | .seq .. | .map .. => exact h

theorem buildPairs_cons {k v : Node} (hk : Drawn Token.IsBare k) (ht : (env.target k).tag? ≠ some .merge) :
    buildPairs fuel env f ((k, v) :: ps) =
      buildPairs fuel (build fuel (build fuel env k).2 v).2
        (f.addPair (build fuel env k).1 (build fuel (build fuel env k).2 v).1) ps := by
  rw [buildPairs.eq_def]
  dsimp only
  rw [if_neg ht]
  match k with
  | .scalar _ t _ _ =>
    obtain ⟨rfl, _⟩ := hk.of_scalar Token.not_isBare_tag
    rfl
  | .alias _ | .seq .. | .map .. => rfl

theorem build_seq : build fuel env (.seq a none xs) =
    let r := buildItems false fuel (env.add a (.seq a none xs) none) xs
    (⟨.list r.1, Built.inside r.2.1⟩, r.2.2.add a (.seq a none xs) (some ⟨.list r.1, Built.inside r.2.1⟩)) := by
  rw [build]
  rfl

theorem build_map : build fuel env (.map a none ps) =
    let r := buildPairs fuel (env.add a (.map a none ps) none) {} ps
    (⟨.map r.1.entries, r.1.firstFault⟩, r.2.add a (.map a none ps) (some ⟨.map r.1.entries, r.1.firstFault⟩)) := by
  rw [build]
  rfl

theorem buildItems_cons : buildItems false fuel env (x :: xs) =
    let r := buildItems false fuel (build fuel env x).2 xs
    ((build fuel env x).1.datum :: r.1, Built.earlier (build fuel env x).1.fault r.2.1, r.2.2) := by
  rw [buildItems]
  rfl

structure BuildsItems (root : Node) (fuel : Nat) (seen : List String) (env : Anchors) (xs : List Node)
    (r : List Datum × Option (Nat × Fault) × Anchors) : Prop where
  textual : ∀ d ∈ r.1, d.IsTextual
  shows   : root.HasKeys root → ∀ n, n ≤ fuel ∨ ¬root.IsKnotted → List.Forall₂ (root.Shows n) xs r.1
  fault   : root.HasKeys root → r.2.1 = none
  keys    : 0 < fuel → r.2.1 = none → ∀ x ∈ xs, root.HasKeys x
  grows   : Anchors.Grows root fuel seen env r.2.2

-- All keys of a pair can be keys.
def HasPair (root : Node) (p : Node × Node) : Prop :=
  (root.key? p.1).isSome ∧ root.HasKeys p.1 ∧ root.HasKeys p.2

structure BuildsPairs (root : Node) (fuel : Nat) (seen : List String) (env : Anchors) (f : Filling)
    (before ps : List (Node × Node)) (r : Filling × Anchors) : Prop where
  tells : r.1.Tells root fuel (before ++ ps)
  keys  : 0 < fuel → r.1.fault = none → f.fault = none ∧ ∀ p ∈ ps, root.HasPair p
  grows : Anchors.Grows root fuel seen env r.2

-- A collection has been built once all that is in it has.

theorem BuildsItems.seq (hf : Follow root env seen [.seq a none xs])
    {r : List Datum × Option (Nat × Fault) × Anchors}
    (h : BuildsItems root fuel seen' (env.add a (.seq a none xs) none) xs r) :
    Builds root fuel seen' env (.seq a none xs) (⟨.list r.1, Built.inside r.2.1⟩,
      r.2.2.add a (.seq a none xs) (some ⟨.list r.1, Built.inside r.2.1⟩)) := by
  have ht : Built.Tells root (fuel + 1) (.seq a none xs) ⟨.list r.1, Built.inside r.2.1⟩ := {
    textual       := .list h.textual
    text k hk     := nomatch hk
    bulk _ k hk   := nomatch hk
    shows hk n hn := by
      cases n with
      | zero   => trivial
      | succ n => exact ⟨r.1, rfl, h.shows hk n (hn.imp_left Nat.le_of_succ_le_succ)⟩
    fault hk      := Built.inside_eq_none.mpr (h.fault hk)
  }
  refine ⟨ht, fun h0 hn => ?_, ?_⟩
  · intro a' t' ps' hm
    rcases mem_parts_seq.mp hm with hm | ⟨x, hx, hm⟩
    · cases hm
    · exact h.keys h0 (Built.inside_eq_none.mp hn) x hx a' t' ps' hm
  · exact h.grows.close (hf.part _ (List.mem_singleton_self _)) ht (fun name ha => Anchors.find_add.trans (if_neg ha))
      (fun _ => Anchors.knows_add) fun _ => .inl

theorem BuildsPairs.map (hf : Follow root env seen [.map a none ps]) {r : Filling × Anchors}
    (h : BuildsPairs root fuel seen' (env.add a (.map a none ps) none) {} [] ps r) :
    Builds root fuel seen' env (.map a none ps) (⟨.map r.1.entries, r.1.firstFault⟩,
      r.2.add a (.map a none ps) (some ⟨.map r.1.entries, r.1.firstFault⟩)) := by
  have ht : Built.Tells root (fuel + 1) (.map a none ps) ⟨.map r.1.entries, r.1.firstFault⟩ := {
    textual       := h.tells.isTextual
    text k hk     := nomatch hk
    bulk _ k hk   := nomatch hk
    shows hk n hn := by
      cases n with
      | zero   => trivial
      | succ n =>
        exact ⟨r.1.own, congrArg _ h.tells.entries, h.tells.shows hk n (hn.imp_left Nat.le_of_succ_le_succ)⟩
    fault hk      := by rw [h.tells.firstFault, h.tells.fault hk]; rfl
  }
  refine ⟨ht, fun h0 hn => ?_, ?_⟩
  · rw [h.tells.firstFault, Built.inside_eq_none] at hn
    obtain ⟨_, hp⟩ := h.keys h0 hn
    intro a' t' ps' hm p' hp'
    rcases mem_parts_map.mp hm with hm | ⟨p, hpm, hm | hm⟩
    · cases hm
      exact (hp p' hp').left
    · exact (hp p hpm).right.left a' t' ps' hm p' hp'
    · exact (hp p hpm).right.right a' t' ps' hm p' hp'
  · exact h.grows.close (hf.part _ (List.mem_singleton_self _)) ht (fun name ha => Anchors.find_add.trans (if_neg ha))
      (fun _ => Anchors.knows_add) fun _ => .inl

mutual
theorem builds (hr : root.IsComposed) (hb : BuildsBelow root fuel) (env : Anchors) (x : Node) (seen seen' : List String)
    (he : env.Tells root fuel) (hf : Follow root env seen [x]) (hs : anchors seen x = .ok seen') :
    Builds root fuel seen' env x (build fuel env x) := by
  have hx : x ∈ root.parts := hf.part x (List.mem_singleton_self x)
  match x with
  | .alias name         => exact builds_alias hr.distinct hb he hf hs
  | .scalar a t plain s => exact builds_scalar (hr.bare.part hx) he hf hs
  | .seq a t xs         =>
    obtain ⟨rfl, _⟩ := (hr.bare.part hx).of_seq Token.not_isBare_tag
    obtain ⟨seen₁, ha, hs'⟩ := bind_eq_ok.mp hs
    have hf' : Follow root (env.add a (.seq a none xs) none) seen₁ xs :=
      hf.enter ha fun y hy => mem_parts_seq.mpr (.inr ⟨y, hy, mem_parts_self y⟩)
    have he' : (env.add a (.seq a none xs) none).Tells root fuel := he.enter hx rfl hs hf.known
    rw [build_seq]
    exact (buildsItems hr hb _ xs seen₁ seen' he' hf' hs').seq hf
  | .map a t ps         =>
    obtain ⟨rfl, _⟩ := (hr.bare.part hx).of_map Token.not_isBare_tag
    obtain ⟨seen₁, ha, hs'⟩ := bind_eq_ok.mp hs
    have hf' : Follow root (env.add a (.map a none ps) none) seen₁ (ps.flatMap fun p => [p.1, p.2]) := by
      refine hf.enter ha fun y hy => mem_parts_map.mpr (.inr ?_)
      obtain ⟨p, hp, hy⟩ := List.mem_flatMap.mp hy
      refine ⟨p, hp, ?_⟩
      rcases List.mem_pair.mp hy with rfl | rfl
      · exact .inl (mem_parts_self _)
      · exact .inr (mem_parts_self _)
    have he' : (env.add a (.map a none ps) none).Tells root fuel := he.enter hx rfl hs hf.known
    rw [build_map]
    exact (buildsPairs hr hb _ {} [] ps seen₁ seen' he' Filling.tells_empty (fun hk p => hk a none ps hx p) hf' hs').map hf
termination_by sizeOf x

theorem buildsItems (hr : root.IsComposed) (hb : BuildsBelow root fuel) (env : Anchors) (xs : List Node)
    (seen seen' : List String) (he : env.Tells root fuel) (hf : Follow root env seen xs) (hs : anchorsOfItems seen xs = .ok seen') :
    BuildsItems root fuel seen' env xs (buildItems false fuel env xs) := by
  match xs with
  | []      =>
    cases hs
    rw [buildItems]
    exact ⟨List.forall_mem_nil _, fun _ _ _ => .nil, fun _ => rfl, fun _ _ => List.forall_mem_nil _, .rfl he hf.known⟩
  | x :: xs =>
    obtain ⟨seen₁, h₁, hs⟩ := bind_eq_ok.mp hs
    have hx := builds hr hb env x seen seen₁ he (hf.mono (by simp)) h₁
    have hxs := buildsItems hr hb _ xs seen₁ seen' hx.grows.tells ((hf.mono (by simp)).grow hx.grows) hs
    rw [buildItems_cons]
    exact {
      textual         := List.forall_mem_cons.mpr ⟨hx.tells.textual, hxs.textual⟩
      shows hk n hn   := .cons (hx.tells.shows hk n (hn.imp_left (Nat.le_trans · (le_reach fuel x)))) (hxs.shows hk n hn)
      fault hk        := Built.earlier_eq_none.mpr ⟨hx.tells.fault hk, hxs.fault hk⟩
      keys h0 hn      :=
        have ⟨hb, hr⟩ := Built.earlier_eq_none.mp hn
        List.forall_mem_cons.mpr ⟨hx.keys h0 hb, hxs.keys h0 hr⟩
      grows           := hx.grows.trans hxs.grows
    }
termination_by sizeOf xs

theorem buildsPairs (hr : root.IsComposed) (hb : BuildsBelow root fuel) (env : Anchors) (f : Filling)
    (before ps : List (Node × Node)) (seen seen' : List String) (he : env.Tells root fuel) (ht : f.Tells root fuel before)
    (hks : root.HasKeys root → ∀ p ∈ ps, (root.key? p.1).isSome)
    (hf : Follow root env seen (ps.flatMap fun p => [p.1, p.2])) (hs : anchorsOfPairs seen ps = .ok seen') :
    BuildsPairs root fuel seen' env f before ps (buildPairs fuel env f ps) := by
  match ps with
  | []           =>
    cases hs
    rw [buildPairs]
    exact ⟨by rwa [List.append_nil], fun _ hn => ⟨hn, List.forall_mem_nil _⟩, .rfl he hf.known⟩
  | (k, v) :: ps =>
    obtain ⟨seen₁, h₁, hs⟩ := bind_eq_ok.mp hs
    obtain ⟨seen₂, h₂, hs⟩ := bind_eq_ok.mp hs
    have hk := builds hr hb env k seen seen₁ he (hf.mono (by simp)) h₁
    have hf₁ := hf.grow hk.grows
    have hv := builds hr hb _ v seen₁ seen₂ hk.grows.tells (hf₁.mono (by simp)) h₂
    have hf₂ := hf₁.grow hv.grows
    have hp := ht.addPair hk.tells hv.tells fun h => hks h _ List.mem_cons_self
    have hps := buildsPairs hr hb _ _ (before ++ [(k, v)]) ps seen₂ seen' hv.grows.tells hp
      (fun h p hp => hks h p (List.mem_cons_of_mem _ hp)) (hf₂.mono (by simp)) hs
    have hkd : Drawn Token.IsBare k := hr.bare.part (hf.part k (by simp))
    rw [buildPairs_cons hkd (tag?_ne_merge (drawn_target hr.bare he hkd))]
    refine ⟨by simpa using hps.tells, fun h0 hn => ?_, (hk.grows.trans hv.grows).trans hps.grows⟩
    obtain ⟨hn, hps⟩ := hps.keys h0 hn
    obtain ⟨hfn, hkn, hvn, s, hs⟩ := Filling.fault_addPair hn
    have hkey : (root.key? k).isSome := hk.tells.bulk (Nat.lt_of_lt_of_le h0 (le_reach fuel k)) s hs
    exact ⟨hfn, List.forall_mem_cons.mpr ⟨⟨hkey, hk.keys h0 hkn, hv.keys h0 hvn⟩, hps⟩⟩
termination_by sizeOf ps
end

theorem buildsBelow (hr : root.IsComposed) (fuel : Nat) : BuildsBelow root fuel := by
  induction fuel with
  | zero         => nofun
  | succ fuel hi =>
    rintro _ ⟨⟩ env x seen seen' he hf hs
    exact (builds hr hi env x seen seen' he hf hs).tells

end Node
end Yaml
end Gamebook
