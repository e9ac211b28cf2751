import Mathlib
import Gamebook.Definition.Build
import Gamebook.Proofs.Chain
import Gamebook.Proofs.Definition.Grammar
import Gamebook.Proofs.Definition.Written

namespace Gamebook

namespace Datum

theorem typeName_ofJson (j : Json) : (ofJson j).typeName = j.typeName := by
  cases j <;> rfl

theorem shapeName_ofJson (j : Json) : Definition.shapeName (ofJson j) = j.shapeName := by
  cases j
  case obj ms => simp only [ofJson, Definition.shapeName, ofMembers_eq_map, List.length_map, Json.shapeName]
  all_goals rfl

theorem isOversize_ofJson (j : Json) : (ofJson j).isOversize = j.isOversize := by
  cases j <;> rfl

theorem get?_ofMembers (ms : List (String × Json)) (name : String) :
    get? (ofMembers ms) name = (Json.get? ms name).map ofJson := by
  rw [get?, Json.get?, ofMembers_eq_map, List.find?_map, Option.map_map, Option.map_map]
  refine congrArg _ (congrArg (List.find? · ms) (funext fun m => ?_))
  simp

end Datum

namespace Definition

open Chain

variable {path : Path} {j : Json} {ms : List (String × Json)} {name : String}

-- What is built of a definition, or the first of its faults.

theorem meets_textOf (j : Json) : Meets (textOf (.ofJson j)) (faultsOfText j) := by
  rw [textOf, faultsOfText, Datum.isOversize_ofJson]
  split
  case isTrue  => exact .error _
  case isFalse => exact .ok _

-- Whether a number is too long is not to be computed where it stands for any other.
attribute [local irreducible] textOf faultsOfText

theorem meets_shape (path : Path) (j : Json) :
    Meets (.error (.actionShape path (shapeName (.ofJson j))) : Except Problem α) [.actionShape path j.shapeName] := by
  rw [Datum.shapeName_ofJson]
  exact .error _

theorem meets_argument (kind : ActionKind) (path : Path) (j : Json) :
    Meets (match Datum.ofJson j with
      | .scalar .null | .map _ | .list _ => .error (.argument path (Datum.ofJson j).typeName)
      | _                                => return ⟨kind, ← textOf (.ofJson j)⟩ : Except Problem Action)
      (faultsOfArgument path j) := by
  have hj := (meets_textOf j).map (f := Action.mk kind)
  rw [Datum.typeName_ofJson]
  cases j
  case null | arr | obj => exact .error _
  all_goals exact hj

theorem meets_buildAction (path : Path) (j : Json) : Meets (buildAction path (.ofJson j)) (faultsOfAction path j) := by
  match j with
  | .obj [(name, value)] =>
    simp only [Datum.ofJson, Datum.ofMembers, buildAction, nameOf_text, ok_bind, faultsOfAction]
    cases ActionKind.parse name with
    | none      => exact .error _
    | some kind => exact meets_argument kind (path ++ [.key name]) value
  | .obj []            => exact meets_shape path (.obj [])
  | .obj (m :: n :: l) => exact meets_shape path (.obj (m :: n :: l))
  | .arr xs            => exact meets_shape path (.arr xs)
  | .str s             => exact meets_shape path (.str s)
  | .int i             => exact meets_shape path (.int i)
  | .float f           => exact meets_shape path (.float f)
  | .bool b            => exact meets_shape path (.bool b)
  | .null              => exact meets_shape path .null

theorem meets_buildActions (path : Path) (actions : List Json) :
    Meets (buildActions path (Datum.ofItems actions)) (faultsOfActions path (.arr actions)) := by
  rw [buildActions, Datum.ofItems_eq_map, List.zipIdx_map, List.mapM_map, faultsOfActions]
  refine .mapM ?_
  rintro ⟨a, i⟩ _
  simp only [Function.comp_apply, Prod.map_apply, id_eq, meets_buildAction]

theorem meets_buildChoice (path : Path) (name : String) (j : Json) :
    Meets (buildChoice path (.text name) (.ofJson j)) (faultsOfChoice (path ++ [.key name]) name j) := by
  simp only [buildChoice, nameOf_text, ok_bind, bind_pure_comp, faultsOfChoice]
  cases Command.parse name with
  | none         => exact .error _
  | some command =>
    cases j
    case arr actions => exact (meets_buildActions _ actions).map
    all_goals exact .error _

theorem meets_buildChoices (path : Path) (ms : List (String × Json)) :
    Meets (buildChoices path (Datum.ofMembers ms))
      (ms.flatMap fun m => faultsOfChoice (path ++ [.key m.1]) m.1 m.2) := by
  rw [buildChoices, Datum.ofMembers_eq_map, List.mapM_map]
  refine Meets.map <| .mapM fun m _ => ?_
  simp only [Function.comp_apply, meets_buildChoice]

-- A member that has to be an object, and what is built of it and what follows.
theorem meets_optionalObject {f : List (Scalar × Datum) → Except Problem α}
    {faults : Path → String → Json → List Problem} {more : List Problem}
    (h : ∀ entries, Meets (f (Datum.ofMembers entries))
      ((entries.flatMap fun m => faults (path ++ [.key name] ++ [.key m.1]) m.1 m.2) ++ more)) :
    Meets (optionalObject (Datum.ofMembers ms) name path >>= f)
      (faultsOfMember (faultsOfObject faults) path ms name ++ more) := by
  rw [optionalObject, Datum.member?, Datum.get?_ofMembers, faultsOfMember]
  cases Json.get? ms name with
  | none   => exact h []
  | some j =>
    simp only [Option.map_some, faultsOfObject, ← Datum.typeName_ofJson]
    cases j
    case null        => exact h []
    case obj entries => exact h entries
    all_goals exact .error _

theorem meets_optionalText (ms : List (String × Json)) (name : String) (path : Path) :
    Meets (optionalText (Datum.ofMembers ms) name path) (faultsOfMember faultsOfFlatText path ms name) := by
  rw [optionalText, Datum.member?, Datum.get?_ofMembers, faultsOfMember]
  cases Json.get? ms name with
  | none   => exact .ok _
  | some j =>
    have hj := (meets_textOf j).map (f := some)
    simp only [Option.map_some, faultsOfFlatText, faultsOfFlat, ← Datum.typeName_ofJson]
    cases j
    case null      => exact .ok _
    case arr | obj => exact .error _
    all_goals exact hj

theorem meets_optionalFlag (ms : List (String × Json)) (name : String) (path : Path) :
    Meets (optionalFlag (Datum.ofMembers ms) name path) (faultsOfMember (faultsOfFlat .boolean) path ms name) := by
  rw [optionalFlag, Datum.member?, Datum.get?_ofMembers, faultsOfMember]
  cases Json.get? ms name with
  | none   => exact .ok _
  | some j =>
    simp only [Option.map_some, faultsOfFlat, ← Datum.typeName_ofJson]
    cases j
    case arr | obj => exact .error _
    all_goals exact .ok _

theorem meets_buildPlace (id : String) (path : Path) (j : Json) :
    Meets (buildPlace id path (.ofJson j)) (faultsOfPlace path j) := by
  simp only [faultsOfPlace, ← Datum.typeName_ofJson]
  cases j
  case obj ms =>
    simp only [Datum.ofJson, buildPlace, List.append_assoc]
    refine meets_optionalObject fun entries => (meets_buildChoices _ entries).bind fun _ _ => ?_
    refine (meets_optionalText ms _ path).bind fun _ _ => (meets_optionalText ms _ path).bind fun _ _ => ?_
    exact (meets_optionalFlag ms _ path).map
  all_goals exact .error _

theorem meets_build (j : Json) : Meets (build (.ofJson j)) (faults j) := by
  simp only [faults, ← Datum.typeName_ofJson]
  cases j
  case obj ms =>
    simp only [Datum.ofJson, build]
    rw [← List.append_nil (faultsOfMember _ _ _ _)]
    refine meets_optionalObject fun entries => ?_
    simp only [Datum.ofMembers_eq_map, List.mapM_map, Function.comp_def, nameOf_text, ok_bind, List.append_nil]
    exact (Meets.mapM fun m _ => (meets_buildPlace m.1 _ m.2).map).map
  all_goals exact .error _

end Definition
end Gamebook
