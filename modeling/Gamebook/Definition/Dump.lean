import Gamebook.Json.Basic
import Gamebook.Story.Place

namespace Gamebook
namespace Definition

def dumpAction (a : Action) : Json :=
  .obj [(a.kind.name, .str a.argument)]

def dumpChoices (choices : Ordered Command (List Action)) : Json :=
  .obj (choices.entries.map fun (c, actions) => (c.name, .arr (actions.map dumpAction)))

-- Only what differs from a place of which nothing is said.
def dumpPlace (p : Place) : Json :=
  .obj (
    (p.description.map fun s => ("description", Json.str s)).toList ++
    (p.instructions.map fun s => ("instructions", Json.str s)).toList ++
    (if p.finished then [("finished", .bool true)] else []) ++
    (if p.choices.entries.isEmpty then [] else [("choices", dumpChoices p.choices)]))

-- A graph in the form of a definition.
def dump (g : PlaceGraph) : Json :=
  .obj [("places", .obj (g.places.entries.map fun (id, p) => (id, dumpPlace p)))]

end Definition
end Gamebook
