import Gamebook.Definition.Problem
import Gamebook.Story.Place

namespace Gamebook
namespace Definition

-- The texts that names and other data are read as.

def nameOf (key : Scalar) : Except Problem String :=
  if key.isOversize then .error .numberTooLong else .ok key.toText

def textOf (v : Datum) : Except Problem String :=
  if v.isOversize then .error .numberTooLong else .ok v.toText

-- The entries of a member that has to be an object, none if it is missing.
def optionalObject (entries : List (Scalar × Datum)) (name : String) (path : Path) :
    Except Problem (List (Scalar × Datum)) :=
  match Datum.member? entries name with
  | none          => .ok []
  | some (.map m) => .ok m
  | some v        => .error (.mismatch .object (path ++ [.key name]) v.typeName)

-- The text of a member that may not be an object or array.
def optionalText (entries : List (Scalar × Datum)) (name : String) (path : Path) :
    Except Problem (Option String) :=
  match Datum.member? entries name with
  | none   => .ok none
  | some v => match v with
    | .map _ | .list _ => .error (.mismatch .string (path ++ [.key name]) v.typeName)
    | _                => some <$> textOf v

def isTrueText (s : String) : Bool :=
  Text.fold s = "true"

-- A flag is set by true and by its name. Other scalars do not set it.
def optionalFlag (entries : List (Scalar × Datum)) (name : String) (path : Path) :
    Except Problem Bool :=
  match Datum.member? entries name with
  | none   => .ok false
  | some v => match v with
    | .scalar (.bool b) => .ok b
    | .scalar (.text s) => .ok (isTrueText s)
    | .map _ | .list _  => .error (.mismatch .boolean (path ++ [.key name]) v.typeName)
    | _                 => .ok false

def shapeName : Datum → String
  | .map m => "object with " ++ Scalar.intText m.length ++ " keys"
  | v      => v.typeName

def buildAction (path : Path) : Datum → Except Problem Action
  | .map [(key, value)] => do
    let name ← nameOf key
    match ActionKind.parse name with
    | none      => .error (.unknownAction name (path ++ [.key name]))
    | some kind => match value with
      | .scalar .null | .map _ | .list _ =>
        .error (.argument (path ++ [.key name]) value.typeName)
      | _ => return ⟨kind, ← textOf value⟩
  | v => .error (.actionShape path (shapeName v))

def buildActions (path : Path) (items : List Datum) : Except Problem (List Action) :=
  items.zipIdx.mapM fun (item, i) => buildAction (path ++ [.index i]) item

def buildChoice (path : Path) (key : Scalar) (value : Datum) :
    Except Problem (Command × List Action) := do
  let name ← nameOf key
  let path := path ++ [.key name]
  match Command.parse name with
  | none         => .error (.unknownCommand name path)
  | some command => match value with
    | .list items => return (command, ← buildActions path items)
    | v           => .error (.mismatch .array path v.typeName)

def buildChoices (path : Path) (entries : List (Scalar × Datum)) :
    Except Problem (Ordered Command (List Action)) :=
  return .ofList (← entries.mapM fun e => buildChoice path e.1 e.2)

def buildPlace (id : String) (path : Path) : Datum → Except Problem Place
  | .map cfg => do
    let choices ← buildChoices (path ++ [.key "choices"]) (← optionalObject cfg "choices" path)
    let description ← optionalText cfg "description" path
    let instructions ← optionalText cfg "instructions" path
    let finished ← optionalFlag cfg "finished" path
    return { id, description, instructions, finished, choices }
  | v => .error (.mismatch .object path v.typeName)

-- What a player finds where no start is defined.
def placeholder : Place where
  id           := PlaceGraph.start
  description  := some ("No start place is defined for this adventure. " ++
    "Please check your adventure file and try again.")
  instructions := some "Please check your adventure file and try again."

def addStart (places : Ordered String Place) : Ordered String Place :=
  if places.contains PlaceGraph.start then places else places.insert PlaceGraph.start placeholder

-- The graph that data defines, or the first problem in the order of the data.
def build : Datum → Except Problem PlaceGraph
  | .map cfg => do
    let entries ← optionalObject cfg "places" []
    let places ← entries.mapM fun (key, value) => do
      let id ← nameOf key
      return (id, ← buildPlace id [.key "places", .key id] value)
    return ⟨addStart (.ofList places)⟩
  | v => .error (.topLevel v.typeName)

end Definition
end Gamebook
