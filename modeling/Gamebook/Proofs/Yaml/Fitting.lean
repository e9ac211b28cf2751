import Mathlib
import Gamebook.Proofs.Definition.Modest
import Gamebook.Proofs.Yaml.Parsed
import Gamebook.Proofs.Yaml.Scanned
import Gamebook.Yaml.Reading

namespace Gamebook
namespace Yaml

open Chain

-- A text is what its tag asks for, or it is malformed. No number is too long to be read as a text.
def Tag.Suits (tag : Option Tag) (plain : Bool) (s : String) : Prop :=
  Fails (fun v => ¬v.isOversize) (Typed.read tag plain s)

-- Every text in a tree suits its tag. A mapping stands for the text of one of its values if it is
-- tagged as a scalar.
inductive Node.Fits : Node → Prop
  | alias                                                  : Fits (.alias name)
  | scalar (h : Tag.Suits t plain s)                       : Fits (.scalar a t plain s)
  | seq (h : ∀ x ∈ xs, Fits x)                             : Fits (.seq a t xs)
  | map (ht : ∀ s, Tag.Suits t false s) (hk : ∀ p ∈ ps, Fits p.fst) (hv : ∀ p ∈ ps, Fits p.snd) : Fits (.map a t ps)

variable {env : Anchors} {x y : Node} {xs : List Node} {ps : List (Node × Node)} {b k v : Built} {f : Filling}
  {es es' : List (Scalar × Datum)} {p q : Option (Nat × Fault)} {a : Option String} {t : Option Tag} {n fuel : Nat}

-- The first fault, if there is one, is that a text is malformed.
def IsMild (f : Option (Nat × Fault)) : Prop :=
  ∀ g ∈ f, g.snd = .malformed

theorem isMild_none : IsMild none :=
  nofun

theorem isMild_malformed (n : Nat) : IsMild (some (n, .malformed)) := by
  rintro _ ⟨⟩
  rfl

theorem IsMild.earlier (h : IsMild p) (h' : IsMild q) : IsMild (Built.earlier p q) := by
  rw [Built.earlier.eq_def]
  split
  case h_1 => exact h'
  case h_2 => exact h
  case h_3 f g =>
    split
    case isTrue  => exact h'
    case isFalse => exact h

theorem IsMild.inside (h : IsMild p) : IsMild (Built.inside p) := by
  rintro g hg
  obtain ⟨f, hf, rfl⟩ := Option.map_eq_some_iff.mp hg
  exact h f hf

structure Built.Fits (b : Built) : Prop where
  datum : b.datum.IsModest
  fault : IsMild b.fault

namespace Built

theorem fits_scalar {s : Scalar} (h : ¬s.isOversize) : (⟨.scalar s, none⟩ : Built).Fits where
  datum := .scalar h
  fault := isMild_none

theorem fits_failed (n : Nat) : (failed n .malformed).Fits where
  datum := .scalar Bool.false_ne_true
  fault := isMild_malformed n

theorem fits_ofScalar {x : Except Fault Scalar} (h : Fails (fun v => ¬v.isOversize) x) : (ofScalar x).Fits := by
  cases h
  case ok h    => exact fits_scalar h
  case error h => exact h ▸ fits_failed 0

end Built

-- What is known of every anchor fits.
def Anchors.Fit (env : Anchors) : Prop :=
  ∀ e ∈ env, e.snd.node.Fits ∧ ∀ b ∈ e.snd.built, b.Fits

namespace Anchors.Fit

theorem find {name : String} {y : Anchored} (h : env.Fit) (hf : env.find name = some y) :
    y.node.Fits ∧ ∀ b ∈ y.built, b.Fits := by
  obtain ⟨e, he, rfl⟩ := Option.map_eq_some_iff.mp hf
  exact h e (List.mem_of_find?_eq_some he)

theorem add {b : Option Built} (h : env.Fit) (hx : x.Fits) (hb : ∀ b' ∈ b, b'.Fits) : (env.add a x b).Fit := by
  cases a
  case none => exact h
  case some => exact List.forall_mem_cons.mpr ⟨⟨hx, hb⟩, h⟩

theorem unbuilt (h : env.Fit) (hx : x.Fits) : (env.add a x none).Fit :=
  h.add hx nofun

theorem built (h : env.Fit) (hx : x.Fits) (hb : b.Fits) : (env.add a x (some b)).Fit :=
  h.add hx fun _ hb' => Option.some.inj hb' ▸ hb

end Anchors.Fit

namespace Filling

structure Fits (f : Filling) : Prop where
  merged     : (Datum.map f.merged).IsModest
  own        : (Datum.map f.own).IsModest
  mergeFault : IsMild f.mergeFault
  fault      : IsMild f.fault

theorem fits_empty : ({} : Filling).Fits where
  merged     := .map_nil
  own        := .map_nil
  mergeFault := isMild_none
  fault      := isMild_none

theorem isModest_of_single? {d : Datum} (h : d.IsModest) (hs : mergeable?.single? d = some es) :
    (Datum.map es).IsModest := by
  rw [mergeable?.single?.eq_def] at hs
  split at hs
  case h_1 => exact Option.some.inj hs ▸ h
  case h_2 => exact Option.some.inj hs ▸ h.map_members
  case h_3 =>
    have ⟨hk, hv⟩ := h.parts
    exact Option.some.inj hs ▸ .map_cons hk.not_isOversize hv .map_nil
  case h_4 => cases hs

theorem isModest_of_mapM_single? {ds : List Datum} {ess : List (List (Scalar × Datum))} (h : ∀ d ∈ ds, d.IsModest)
    (hs : ds.mapM mergeable?.single? = some ess) : (Datum.map ess.flatten).IsModest := by
  induction ds generalizing ess with
  | nil          => exact Option.some.inj hs ▸ .map_nil
  | cons d ds hi =>
    have ⟨hd, hds⟩ := List.forall_mem_cons.mp h
    rw [List.mapM_cons] at hs
    obtain ⟨es, hes, hs⟩ := Option.bind_eq_some_iff.mp hs
    obtain ⟨ess', hess, hs⟩ := Option.bind_eq_some_iff.mp hs
    exact Option.some.inj hs ▸ (isModest_of_single? hd hes).map_append (hi hds hess)

theorem isModest_of_mergeable? {d : Datum} (h : d.IsModest) (hs : mergeable? d = some es) :
    (Datum.map es).IsModest := by
  rw [mergeable?.eq_def] at hs
  split at hs
  case h_1 => exact Option.some.inj hs ▸ h
  case h_2 => exact Option.some.inj hs ▸ h.map_members
  case h_3 =>
    have ⟨hk, hv⟩ := h.parts
    exact Option.some.inj hs ▸ .map_cons hk.not_isOversize hv .map_nil
  case h_4 ds =>
    obtain ⟨ess, hess, rfl⟩ := Option.map_eq_some_iff.mp hs
    exact isModest_of_mapM_single? (fun d hd => h.items d (List.mem_reverse.mp hd)) hess
  case h_5 => cases hs

theorem Fits.addPair (h : f.Fits) (hk : k.Fits) (hv : v.Fits) : (f.addPair k v).Fits := by
  have hf {p : Option (Nat × Fault)} (hp : IsMild p) : IsMild (Built.earlier f.fault (Built.earlier k.fault p)) :=
    h.fault.earlier (hk.fault.earlier hp)
  have hd := hk.datum
  rw [Filling.addPair]
  split
  case h_1 s hs => exact {
      merged     := h.merged
      own        := h.own.map_append (.map_cons (hs ▸ hd).not_isOversize hv.datum .map_nil)
      mergeFault := h.mergeFault
      fault      := hf hv.fault
    }
  case h_2 => exact { h with fault := hf (isMild_malformed 0) }

theorem Fits.addMerge (h : f.Fits) (hv : v.Fits) : (f.addMerge v).Fits := by
  rw [Filling.addMerge]
  split
  case h_1 es hes => exact {
      merged     := h.merged.map_append (isModest_of_mergeable? hv.datum hes)
      own        := h.own
      mergeFault := h.mergeFault
      fault      := h.fault.earlier hv.fault
    }
  case h_2 => exact { h with mergeFault := h.mergeFault.earlier (isMild_malformed 0) }

theorem Fits.entries (h : f.Fits) : (Datum.map f.entries).IsModest :=
  .map_putAll .map_nil (h.merged.map_append h.own)

theorem Fits.firstFault (h : f.Fits) : IsMild f.firstFault :=
  (h.mergeFault.earlier h.fault).inside

end Filling

namespace Node

theorem Fits.suits {plain : Bool} {s : String} (h : (Node.scalar a t plain s).Fits) : Tag.Suits t plain s := by
  cases h
  assumption

theorem Fits.suits_text (h : (Node.map a t ps).Fits) (s : String) : Tag.Suits t false s := by
  cases h with
  | map ht => exact ht s

theorem Fits.items (h : (Node.seq a t xs).Fits) : ∀ x ∈ xs, x.Fits := by
  cases h
  assumption

theorem Fits.keys (h : (Node.map a t ps).Fits) : ∀ p ∈ ps, p.fst.Fits := by
  cases h
  assumption

theorem Fits.values (h : (Node.map a t ps).Fits) : ∀ p ∈ ps, p.snd.Fits := by
  cases h
  assumption

theorem fails_scalarText (env : Anchors) (fuel : Nat) (x : Node) : Fails (fun _ => True) (scalarText env fuel x) := by
  fun_induction scalarText env fuel x with
  | case1 | case4 | case5 => exact .error rfl
  | case2                 => exact .ok trivial
  | case3 _ _ _ _ _ _ _ _ hi => exact hi

theorem isModest_pairOf {d : Datum} (h : d.IsModest) : (pairOf d).IsModest := by
  rw [pairOf.eq_def]
  split
  case h_1 =>
    have hk := h.keys _ List.mem_cons_self
    have hv := h.values _ List.mem_cons_self
    exact .pair (.scalar hk) hv
  case h_2 => exact h

-- What is built with less fuel.
def FitsBelow (fuel : Nat) : Prop :=
  ∀ n, fuel = n + 1 → ∀ env x, env.Fit → x.Fits → (build n env x).fst.Fits

-- What a collection comes to, of which the items are known.

theorem fits_seq {ds : List Datum} (h : ∀ d ∈ ds, d.IsModest) (hp : IsMild p) (t : Option Tag) :
    (match (t.map Tag.shape?).getD (some .list) with
      | some .list  => (⟨.list ds, Built.inside p⟩ : Built)
      | some .pairs => ⟨.list (ds.map pairOf), Built.inside p⟩
      | some _      => .failed 1 .malformed
      | none        => .failed 0 .malformed).Fits := by
  split
  case h_1 => exact ⟨.list h, hp.inside⟩
  case h_2 => exact ⟨.list (List.forall_mem_map.mpr fun d hd => isModest_pairOf (h d hd)), hp.inside⟩
  case h_3 => exact Built.fits_failed 1
  case h_4 => exact Built.fits_failed 0

theorem fits_map (h : f.Fits) (hx : (Node.map a t ps).Fits) (env : Anchors) :
    (match (t.map Tag.shape?).getD (some .map) with
      | some .map => (⟨.map f.entries, f.firstFault⟩ : Built)
      | some .set => ⟨.set (f.entries.map Prod.fst), f.firstFault⟩
      | some _    => .failed 1 .malformed
      | none      => .ofScalar (do Typed.read t false (← scalarText env unfolding (.map a t ps)))).Fits := by
  split
  case h_1 => exact ⟨h.entries, h.firstFault⟩
  case h_2 => exact ⟨.set (List.forall_mem_map.mpr h.entries.keys), h.firstFault⟩
  case h_3 => exact Built.fits_failed 1
  case h_4 => exact Built.fits_ofScalar ((fails_scalarText _ _ _).bind fun s _ => hx.suits_text s)

-- A key that is tagged as a default value stands for its text.
theorem fits_key (he : env.Fit) (k : Node) :
    let r : Built × Anchors := match k with
      | .scalar a (some .value) _ s => (⟨.text s, none⟩, env.add a k (some ⟨.text s, none⟩))
      | k                           => build fuel env k
    k.Fits → (build fuel env k).fst.Fits ∧ (build fuel env k).snd.Fit → r.fst.Fits ∧ r.snd.Fit := by
  intro r hk h
  dsimp only [r]
  split
  case h_1 => exact ⟨Built.fits_scalar Bool.false_ne_true, he.built hk (Built.fits_scalar Bool.false_ne_true)⟩
  case h_2 => exact h

mutual
theorem fits_build (hf : FitsBelow fuel) (env : Anchors) (x : Node) (he : env.Fit) (hx : x.Fits) :
    (build fuel env x).fst.Fits ∧ (build fuel env x).snd.Fit := by
  match x with
  | .alias name =>
    rw [build]
    split
    case h_1 hb => exact ⟨(he.find hb).right _ rfl, he⟩
    case h_2 hb =>
      split
      case h_1 => exact ⟨Built.fits_scalar Bool.false_ne_true, he⟩
      case h_2 => exact ⟨hf _ rfl _ _ he (he.find hb).left, he⟩
    case h_3 => exact ⟨Built.fits_failed 0, he⟩
  | .scalar a t plain s =>
    have hb : (match t.bind Tag.shape? with
        | some _ => Built.failed 1 .malformed
        | none   => .ofScalar (Typed.read t plain s)).Fits := by
      split
      case h_1 => exact Built.fits_failed 1
      case h_2 => exact Built.fits_ofScalar hx.suits
    rw [build]
    exact ⟨hb, he.built hx hb⟩
  | .seq a t xs =>
    have ⟨hds, hp, he'⟩ := fits_buildItems hf (env.add a (.seq a t xs) none) xs (he.unbuilt hx) hx.items
      (t.bind Tag.shape? = some .pairs)
    have hb := fits_seq hds hp t
    rw [build]
    exact ⟨hb, he'.built hx hb⟩
  | .map a t ps =>
    have ⟨hfs, he'⟩ := fits_buildPairs hf (env.add a (.map a t ps) none) {} ps (he.unbuilt hx) Filling.fits_empty
      hx.keys hx.values
    have hb := fits_map hfs hx (buildPairs fuel (env.add a (.map a t ps) none) {} ps).snd
    rw [build]
    exact ⟨hb, he'.built hx hb⟩
termination_by sizeOf x

theorem fits_buildItems (hf : FitsBelow fuel) (env : Anchors) (xs : List Node) (he : env.Fit) (hx : ∀ x ∈ xs, x.Fits)
    (single : Bool) :
    (∀ d ∈ (buildItems single fuel env xs).fst, d.IsModest) ∧ IsMild (buildItems single fuel env xs).snd.fst ∧
      (buildItems single fuel env xs).snd.snd.Fit := by
  match xs with
  | [] =>
    rw [buildItems]
    exact ⟨List.forall_mem_nil _, isMild_none, he⟩
  | x :: xs =>
    have ⟨hx, hxs⟩ := List.forall_mem_cons.mp hx
    have ⟨hb, he'⟩ := fits_build hf env x he hx
    have ⟨hds, hp, he''⟩ := fits_buildItems hf (build fuel env x).snd xs he' hxs single
    have hs : IsMild (if !single || isSinglePair (env.target x) then none else some (0, .malformed)) := by
      split
      case isTrue  => exact isMild_none
      case isFalse => exact isMild_malformed 0
    rw [buildItems]
    exact ⟨List.forall_mem_cons.mpr ⟨hb.datum, hds⟩, (hs.earlier hb.fault).earlier hp, he''⟩
termination_by sizeOf xs

theorem fits_buildPairs (hf : FitsBelow fuel) (env : Anchors) (f : Filling) (ps : List (Node × Node)) (he : env.Fit)
    (h : f.Fits) (hk : ∀ p ∈ ps, p.fst.Fits) (hv : ∀ p ∈ ps, p.snd.Fits) :
    (buildPairs fuel env f ps).fst.Fits ∧ (buildPairs fuel env f ps).snd.Fit := by
  match ps with
  | [] =>
    rw [buildPairs]
    exact ⟨h, he⟩
  | (k, v) :: ps =>
    have ⟨hk, hks⟩ := List.forall_mem_cons.mp hk
    have ⟨hv, hvs⟩ := List.forall_mem_cons.mp hv
    rw [buildPairs.eq_def]
    dsimp only
    split
    case isTrue =>
      have ⟨hb, he'⟩ := fits_build hf env v he hv
      exact fits_buildPairs hf _ _ ps he' (h.addMerge hb) hks hvs
    case isFalse =>
      have ⟨hkb, he'⟩ := fits_key he k hk (fits_build hf env k he hk)
      have ⟨hvb, he''⟩ := fits_build hf _ v he' hv
      exact fits_buildPairs hf _ _ ps he'' (h.addPair hkb hvb) hks hvs
termination_by sizeOf ps
end

theorem fitsBelow (fuel : Nat) : FitsBelow fuel := by
  induction fuel with
  | zero         => nofun
  | succ fuel hi =>
    rintro _ ⟨⟩ env x he hx
    exact (fits_build hi env x he hx).left

end Node

-- A document that fits.
structure Fits (source : String) : Prop where
  modest : Modest source.toList
  node   : ∀ ts x, Token.scan source.toList = .ok ts → Node.ofTokens ts = .ok (some x) → x.Fits

theorem fails_read {source : String} (h : Fits source) : Fails Datum.IsModest (read source) := by
  have hs := fails_scan h.modest
  rw [read]
  cases hts : Token.scan source.toList with
  | error e => exact .error ((hts ▸ hs).of_error)
  | ok ts   =>
    rw [ok_bind]
    cases hx : Node.ofTokens ts with
    | error e => exact .error ((hx ▸ Node.fails_ofTokens (T := fun _ => True) fun _ _ => trivial).of_error)
    | ok x    =>
      rw [ok_bind]
      cases x with
      | none   => exact .ok (.scalar Bool.false_ne_true)
      | some x =>
        refine (Node.fails_anchors [] x).bind fun _ _ => ?_
        have hn := h.node ts x hts hx
        have hb := (Node.fits_build (Node.fitsBelow Node.unfolding) [] x (List.forall_mem_nil _) hn).left
        dsimp only
        split
        case h_1 hf => exact .error (hb.fault _ hf)
        case h_2    => exact .ok hb.datum

end Yaml
end Gamebook
