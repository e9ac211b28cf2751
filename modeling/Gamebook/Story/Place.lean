import Gamebook.Ordered
import Gamebook.Story.Action
import Gamebook.Story.Command

namespace Gamebook

@[ext]
structure Place where
  id           : String
  description  : Option String := none
  instructions : Option String := none
  finished     : Bool := false
  choices      : Ordered Command (List Action) := .empty
deriving DecidableEq, Repr

-- Do two places agree in all but the order of their choices?
def Place.agree (p q : Place) : Bool :=
  p.id = q.id && p.description = q.description && p.instructions = q.instructions &&
    p.finished = q.finished && p.choices.agree (· == ·) q.choices

-- The places of an adventure by their keys.
@[ext]
structure PlaceGraph where
  places : Ordered String Place
deriving DecidableEq, Repr

namespace PlaceGraph

def start : String := "start"

def get? (g : PlaceGraph) (id : String) : Option Place :=
  g.places.get? id

def contains (g : PlaceGraph) (id : String) : Bool :=
  g.places.contains id

def ids (g : PlaceGraph) : List String :=
  g.places.keys

def size (g : PlaceGraph) : Nat :=
  g.places.size

-- Do two graphs agree in all but the order of their places and choices?
def agree (g h : PlaceGraph) : Bool :=
  g.places.agree Place.agree h.places

-- Every place is stored under its own id.
def Keyed (g : PlaceGraph) : Prop :=
  ∀ e ∈ g.places.entries, e.2.id = e.1

end PlaceGraph
end Gamebook
