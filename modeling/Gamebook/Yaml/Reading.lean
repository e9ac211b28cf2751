import Gamebook.Yaml.Document
import Gamebook.Yaml.Scan
import Gamebook.Yaml.Typed

namespace Gamebook
namespace Yaml

-- A datum with the first fault in it, if there is one, and how deep that lies. Collections are
-- filled only after all those around them, so that of two faults the one less deep is met first.
structure Built where
  datum : Datum
  fault : Option (Nat × Fault) := none
deriving Inhabited

namespace Built

def failed (depth : Nat) (f : Fault) : Built :=
  ⟨.null, some (depth, f)⟩

def ofScalar : Except Fault Scalar → Built
  | .ok s    => ⟨.scalar s, none⟩
  | .error f => failed 0 f

def earlier : Option (Nat × Fault) → Option (Nat × Fault) → Option (Nat × Fault)
  | none,   g      => g
  | some f, none   => some f
  | some f, some g => some (if g.1 < f.1 then g else f)

def inside (f : Option (Nat × Fault)) : Option (Nat × Fault) :=
  f.map fun (n, f) => (n + 1, f)

end Built

-- What is known of an anchor: its node, and what that stands for unless it is still being read.
structure Anchored where
  node  : Node
  built : Option Built

abbrev Anchors := List (String × Anchored)

namespace Anchors

def find (env : Anchors) (name : String) : Option Anchored :=
  (env.find? (·.1 = name)).map Prod.snd

def add (env : Anchors) (anchor : Option String) (x : Node) (b : Option Built) : Anchors :=
  match anchor with
  | none      => env
  | some name => (name, ⟨x, b⟩) :: env

-- The node that an alias stands for.
def target (env : Anchors) : Node → Node
  | .alias name => ((env.find name).map (·.node)).getD .empty
  | x           => x

end Anchors

-- The entries of a mapping so far: those that are merged into it, which its own ones follow, and
-- the first fault that merging and filling meet.
structure Filling where
  merged     : List (Scalar × Datum) := []
  own        : List (Scalar × Datum) := []
  mergeFault : Option (Nat × Fault) := none
  fault      : Option (Nat × Fault) := none

namespace Filling

def addPair (f : Filling) (k v : Built) : Filling :=
  let fault := Built.earlier f.fault ∘ Built.earlier k.fault
  match k.datum with
  | .scalar s => { f with own := f.own ++ [(s, v.datum)], fault := fault v.fault }
  | _         => { f with fault := fault (some (0, .malformed)) }

-- What a datum adds when it is merged. Of several maps the first one has the last word.
def mergeable? : Datum → Option (List (Scalar × Datum))
  | .map es            => some es
  | .set ms            => some (ms.map (·, .null))
  | .pair (.scalar k) v => some [(k, v)]
  | .list ds           => (ds.reverse.mapM single?).map List.flatten
  | _                  => none
where
  single? : Datum → Option (List (Scalar × Datum))
    | .map es             => some es
    | .set ms             => some (ms.map (·, .null))
    | .pair (.scalar k) v => some [(k, v)]
    | _                   => none

def addMerge (f : Filling) (v : Built) : Filling :=
  match mergeable? v.datum with
  | some es => { f with merged := f.merged ++ es, fault := Built.earlier f.fault v.fault }
  | none    => { f with mergeFault := Built.earlier f.mergeFault (some (0, .malformed)) }

def entries (f : Filling) : List (Scalar × Datum) :=
  (f.merged ++ f.own).foldl (fun es e => Datum.put e.1 e.2 es) []

def firstFault (f : Filling) : Option (Nat × Fault) :=
  Built.inside (Built.earlier f.mergeFault f.fault)

end Filling

-- The shapes that tags ask of collections.
inductive Shape
  | list
  | map
  | set
  | pairs
deriving DecidableEq

namespace Tag

def shape? : Tag → Option Shape
  | .seq           => some .list
  | .map           => some .map
  | .set           => some .set
  | .omap | .pairs => some .pairs
  | _              => none

end Tag

namespace Node

def tag? : Node → Option Tag
  | .scalar _ t plain s     => Typed.typeOf t plain s
  | .seq _ t _ | .map _ t _ => t
  | .alias _                => none

def isSinglePair : Node → Bool
  | .map _ _ [_] => true
  | _            => false

-- How often an alias inside of what it stands for is followed. Nothing looks deeper into data.
def unfolding : Nat := 8

-- The text of a scalar. A mapping with a default value stands for that where text is needed.
def scalarText (env : Anchors) : Nat → Node → Except Fault String
  | 0,        _ => .error .malformed
  | fuel + 1, x => match env.target x with
    | .scalar _ _ _ s => .ok s
    | .map _ _ ps     => match ps.find? fun p => (env.target p.1).tag? = some .value with
      | some p => scalarText env fuel p.2
      | none   => .error .malformed
    | _ => .error .malformed

-- A list of the entries of an ordered map, each of which was a mapping with one pair.
def pairOf : Datum → Datum
  | .map [(k, v)] => .pair (.scalar k) v
  | d             => d

mutual
-- What a node stands for, and the anchors that are known after it. An alias of a node that is
-- still being read is followed `fuel` times.
def build (fuel : Nat) (env : Anchors) (x : Node) : Built × Anchors :=
  match x with
  | .alias name => match env.find name with
    | some ⟨_, some b⟩ => (b, env)
    | some ⟨y, none⟩   => match fuel with
      | 0        => (⟨.null, none⟩, env)
      | fuel + 1 => ((build fuel env y).1, env)
    | none => (.failed 0 .malformed, env)
  | .scalar a t plain s =>
    let b := match t.bind Tag.shape? with
      | some _ => .failed 1 .malformed
      | none   => .ofScalar (Typed.read t plain s)
    (b, env.add a x b)
  | .seq a t xs =>
    let (ds, f, env) := buildItems (t.bind Tag.shape? = some .pairs) fuel (env.add a x none) xs
    let b := match (t.map Tag.shape?).getD (some .list) with
      | some .list  => ⟨.list ds, Built.inside f⟩
      | some .pairs => ⟨.list (ds.map pairOf), Built.inside f⟩
      | some _      => .failed 1 .malformed
      | none        => .failed 0 .malformed
    (b, env.add a x b)
  | .map a t ps =>
    let (f, env) := buildPairs fuel (env.add a x none) {} ps
    let b := match (t.map Tag.shape?).getD (some .map) with
      | some .map => ⟨.map f.entries, f.firstFault⟩
      | some .set => ⟨.set (f.entries.map Prod.fst), f.firstFault⟩
      | some _    => .failed 1 .malformed
      | none      => .ofScalar (do Typed.read t false (← scalarText env unfolding x))
    (b, env.add a x b)
termination_by (fuel, sizeOf x)

-- The items of a sequence, each of which has to be a mapping with one pair if `single` is set.
def buildItems (single : Bool) (fuel : Nat) (env : Anchors) (xs : List Node) :
    List Datum × Option (Nat × Fault) × Anchors :=
  match xs with
  | []      => ([], none, env)
  | x :: xs =>
    let shape := if !single || isSinglePair (env.target x) then none else some (0, .malformed)
    let (b, env) := build fuel env x
    let (ds, f, env) := buildItems single fuel env xs
    (b.datum :: ds, Built.earlier (Built.earlier shape b.fault) f, env)
termination_by (fuel, sizeOf xs)

-- The pairs of a mapping after those that `f` holds.
def buildPairs (fuel : Nat) (env : Anchors) (f : Filling) (ps : List (Node × Node)) :
    Filling × Anchors :=
  match ps with
  | []           => (f, env)
  | (k, v) :: ps =>
    let t := (env.target k).tag?
    if t = some .merge then
      let (b, env) := build fuel env v
      buildPairs fuel env (f.addMerge b) ps
    else
      let (kb, env) := match k with
        | .scalar a (some .value) _ s =>
          let b : Built := ⟨.text s, none⟩
          (b, env.add a k b)
        | k => build fuel env k
      let (vb, env) := build fuel env v
      buildPairs fuel env (f.addPair kb vb) ps
termination_by (fuel, sizeOf ps)
end

end Node

-- The data that a text stands for. A text without a document stands for null.
def read (source : String) : Except Fault Datum := do
  match ← Node.ofTokens (← Token.scan source.toList) with
  | none   => return .null
  | some x =>
    let _ ← Node.anchors [] x
    let b := (Node.build Node.unfolding [] x).1
    match b.fault with
    | some (_, f) => throw f
    | none        => return b.datum

end Yaml
end Gamebook
