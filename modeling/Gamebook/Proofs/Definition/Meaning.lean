import Mathlib
import Gamebook.Definition.Build
import Gamebook.Proofs.Definition.Grammar
import Gamebook.Proofs.Story.Names

namespace Gamebook

namespace Json

-- The text that a value is read as. A number with too many digits has none.
def text? : Json → Option String
  | bool b  => some (if b then "true" else "false")
  | int i   => if (int i).isOversize then none else some (Scalar.intText i)
  | float f => some f.text
  | str s   => some s
  | _       => none

-- What a member holds, a missing one and one that is null being alike.
def member? (ms : List (String × Json)) (name : String) : Option Json :=
  match get? ms name with
  | some null => none
  | j         => j

-- The members of a member that has to be an object.
def entries? (ms : List (String × Json)) (name : String) : Option (List (String × Json)) :=
  match member? ms name with
  | none          => some []
  | some (obj es) => some es
  | some _        => none

end Json

namespace Definition

-- What the parts of a definition stand for.

def DefinesText (j : Json) (text : String) : Prop :=
  j.text? = some text

def DefinesFlag (j : Option Json) (flag : Bool) : Prop :=
  (∀ v ∈ j, v.IsFlat) ∧ (flag ↔ j = some (.bool true) ∨ ∃ s, j = some (.str s) ∧ Text.fold s = "true")

def DefinesAction (j : Json) (a : Action) : Prop :=
  ∃ name value, j = .obj [(name, value)] ∧ a.kind.Spells name ∧ DefinesText value a.argument

def DefinesChoice (m : String × Json) (e : Command × List Action) : Prop :=
  e.1.Spells m.1 ∧ ∃ items, m.2 = .arr items ∧ List.Forall₂ DefinesAction items e.2

-- Of several entries for one command, the last one counts. It stands where the first one does.
def DefinesChoices (es : List (String × Json)) (choices : Ordered Command (List Action)) : Prop :=
  ∃ cs, List.Forall₂ DefinesChoice es cs ∧ choices.keys = (cs.map Prod.fst).eraseDups ∧
    ∀ c, choices.get? c = ((cs.filter (·.1 = c)).getLast?).map Prod.snd

structure DefinesMembers (id : String) (ms : List (String × Json)) (p : Place) : Prop where
  id           : p.id = id
  description  : Option.Rel DefinesText (Json.member? ms "description") p.description
  instructions : Option.Rel DefinesText (Json.member? ms "instructions") p.instructions
  finished     : DefinesFlag (Json.member? ms "finished") p.finished
  choices      : ∃ es, Json.entries? ms "choices" = some es ∧ DefinesChoices es p.choices

def DefinesPlace (id : String) (j : Json) (p : Place) : Prop :=
  ∃ ms, j = .obj ms ∧ DefinesMembers id ms p

-- The places stand in the order in which they are defined. There is always a start.
structure DefinesPlaces (es : List (String × Json)) (g : PlaceGraph) : Prop where
  ids   : g.ids = es.map Prod.fst ++ if PlaceGraph.start ∈ es.map Prod.fst then [] else [PlaceGraph.start]
  place : ∀ m ∈ es, ∀ p, g.get? m.1 = some p ↔ DefinesPlace m.1 m.2 p
  start : PlaceGraph.start ∉ es.map Prod.fst → g.get? PlaceGraph.start = some placeholder

def Defines (j : Json) (g : PlaceGraph) : Prop :=
  ∃ ms es, j = .obj ms ∧ Json.entries? ms "places" = some es ∧ DefinesPlaces es g

-- Other ways to write a definition: with other spellings of names, and the places in another order.

def RespellsAction (j j' : Json) : Prop :=
  ∃ (kind : ActionKind) (name name' : String) (value : Json),
    j = .obj [(name, value)] ∧ j' = .obj [(name', value)] ∧ kind.Spells name ∧ kind.Spells name'

def RespellsChoice (m m' : String × Json) : Prop :=
  ∃ (c : Command) (items items' : List Json),
    c.Spells m.1 ∧ c.Spells m'.1 ∧ m.2 = .arr items ∧ m'.2 = .arr items' ∧ List.Forall₂ RespellsAction items items'

def RespellsPlace (m m' : String × Json) : Prop :=
  m'.1 = m.1 ∧ ∃ ms ms' es es', m.2 = .obj ms ∧ m'.2 = .obj ms' ∧
    (∀ name, name ≠ "choices" → Json.get? ms name = Json.get? ms' name) ∧
    Json.entries? ms "choices" = some es ∧ Json.entries? ms' "choices" = some es' ∧ List.Forall₂ RespellsChoice es es'

def Rewrites (j j' : Json) : Prop :=
  ∃ ms ms' es es' es'', j = .obj ms ∧ j' = .obj ms' ∧
    Json.entries? ms "places" = some es ∧ Json.entries? ms' "places" = some es' ∧
    es'.Perm es'' ∧ List.Forall₂ RespellsPlace es es''

end Definition
end Gamebook
