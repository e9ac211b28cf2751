import Mathlib
import Gamebook.Definition.Problem
import Gamebook.Json.Writer
import Gamebook.Story.Action
import Gamebook.Story.Command
import Gamebook.Story.Place

namespace Gamebook

namespace Json

def typeName : Json → String
  | null    => "null"
  | bool _  => "boolean"
  | int _   => "number"
  | float _ => "number"
  | str _   => "string"
  | arr _   => "array"
  | obj _   => "object"

-- Like the name of the type, but objects with different numbers of members are told apart.
def shapeName : Json → String
  | obj ms => "object with " ++ Scalar.intText ms.length ++ " keys"
  | j      => j.typeName

-- What a path leads to.
def follow? : Json → Path → Option Json
  | j,      []              => some j
  | obj ms, .key k :: path   => (get? ms k).bind (·.follow? path)
  | arr xs, .index n :: path => xs[n]?.bind (·.follow? path)
  | _,      _                => none

-- Neither an object nor an array.
def IsFlat : Json → Prop
  | arr _ | obj _ => False
  | _             => True

-- No name comes twice in one object.
inductive Distinct : Json → Prop
  | flat (h : j.IsFlat)                 : Distinct j
  | arr (h : ∀ x ∈ xs, Distinct x)      : Distinct (.arr xs)
  | obj (h : ∀ m ∈ ms, Distinct m.snd) : (ms.map Prod.fst).Nodup → Distinct (.obj ms)

end Json

namespace Definition

-- The grammar of definitions.

def IsArgument : Json → Prop
  | .str _ | .int _ | .float _ | .bool _ => True
  | _                                    => False

def IsAction : Json → Prop
  | .obj [(name, value)] => (ActionKind.parse name).isSome ∧ IsArgument value
  | _                    => False

def IsChoice (name : String) : Json → Prop
  | .arr actions => (Command.parse name).isSome ∧ ∀ a ∈ actions, IsAction a
  | _            => False

def IsObjectOf (P : String → Json → Prop) : Json → Prop
  | .obj ms => ∀ m ∈ ms, P m.1 m.2
  | _       => False

-- A member may be missing or null.
def MayHave (ms : List (String × Json)) (name : String) (P : Json → Prop) : Prop :=
  ∀ v, Json.get? ms name = some v → v = .null ∨ P v

def IsPlace : Json → Prop
  | .obj ms =>
    MayHave ms "choices" (IsObjectOf IsChoice) ∧ MayHave ms "description" Json.IsFlat ∧
      MayHave ms "instructions" Json.IsFlat ∧ MayHave ms "finished" Json.IsFlat
  | _ => False

end Definition

def Json.IsDefinition : Json → Prop
  | obj ms => Definition.MayHave ms "places" (Definition.IsObjectOf fun _ => Definition.IsPlace)
  | _      => False

namespace Definition

-- All that is wrong with a definition, in the order in which it stands there. Numbers that are too
-- long are among it where a text is read.

def faultsOfText (j : Json) : List Problem :=
  if j.isOversize then [.numberTooLong] else []

def faultsOfName (known : Bool) (unknown : Problem) : List Problem :=
  if known then [] else [unknown]

def faultsOfArgument (path : Path) (j : Json) : List Problem :=
  match j with
  | .null | .arr _ | .obj _ => [.argument path j.typeName]
  | _                       => faultsOfText j

def faultsOfAction (path : Path) (j : Json) : List Problem :=
  match j with
  | .obj [(name, value)] =>
    faultsOfName (ActionKind.parse name).isSome (.unknownAction name (path ++ [.key name])) ++
      faultsOfArgument (path ++ [.key name]) value
  | _ => [.actionShape path j.shapeName]

def faultsOfActions (path : Path) (j : Json) : List Problem :=
  match j with
  | .arr actions => actions.zipIdx.flatMap fun (a, i) => faultsOfAction (path ++ [.index i]) a
  | _            => [.mismatch .array path j.typeName]

def faultsOfChoice (path : Path) (name : String) (j : Json) : List Problem :=
  faultsOfName (Command.parse name).isSome (.unknownCommand name path) ++ faultsOfActions path j

def faultsOfObject (faults : Path → String → Json → List Problem) (path : Path) (j : Json) : List Problem :=
  match j with
  | .obj ms => ms.flatMap fun m => faults (path ++ [.key m.1]) m.1 m.2
  | _       => [.mismatch .object path j.typeName]

def faultsOfMember (faults : Path → Json → List Problem) (path : Path) (ms : List (String × Json)) (name : String) :
    List Problem :=
  match Json.get? ms name with
  | none | some .null => []
  | some j            => faults (path ++ [.key name]) j

def faultsOfFlat (expected : Expected) (path : Path) (j : Json) : List Problem :=
  match j with
  | .arr _ | .obj _ => [.mismatch expected path j.typeName]
  | _               => []

def faultsOfFlatText (path : Path) (j : Json) : List Problem :=
  faultsOfFlat .string path j ++ faultsOfText j

def faultsOfPlace (path : Path) (j : Json) : List Problem :=
  match j with
  | .obj ms =>
    faultsOfMember (faultsOfObject faultsOfChoice) path ms "choices" ++
      faultsOfMember faultsOfFlatText path ms "description" ++
      faultsOfMember faultsOfFlatText path ms "instructions" ++
      faultsOfMember (faultsOfFlat .boolean) path ms "finished"
  | _ => [.mismatch .object path j.typeName]

def faults (j : Json) : List Problem :=
  match j with
  | .obj ms => faultsOfMember (faultsOfObject fun path _ => faultsOfPlace path) [] ms "places"
  | _       => [.topLevel j.typeName]

-- What of it is a matter of the grammar.
def violations (j : Json) : List Problem :=
  (faults j).filter Problem.isReported

def Expected.Admits (j : Json) : Expected → Prop
  | object           => ∃ ms, j = .obj ms
  | array            => ∃ xs, j = .arr xs
  | string | boolean => j.IsFlat

-- What a problem says of the node that a path leads to.
def Problem.Condemns (path : Path) (j : Json) : Problem → Prop
  | topLevel found            => path = [] ∧ (∀ ms, j ≠ .obj ms) ∧ found = j.typeName
  | mismatch expected p found => path = p ∧ ¬expected.Admits j ∧ found = j.typeName
  | unknownCommand name p     => path = p ∧ p.getLast? = some (.key name) ∧ Command.parse name = none
  | unknownAction name p      => path = p ∧ p.getLast? = some (.key name) ∧ ActionKind.parse name = none
  | actionShape p found       => path = p ∧ (∀ m, j ≠ .obj [m]) ∧ found = j.shapeName
  | argument p found          => path = p ∧ ¬IsArgument j ∧ found = j.typeName
  | numberTooLong             => j.isOversize
  | _                         => False

-- A definition is accepted if it follows the grammar. Else the first of its violations is reported.
def Judges (j : Json) (outcome : Except Problem PlaceGraph) : Prop :=
  ((∃ g, outcome = .ok g) ↔ j.IsDefinition) ∧ ∀ p, outcome = .error p ↔ (violations j).head? = some p

end Definition
end Gamebook
