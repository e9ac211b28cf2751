import Gamebook.Form.Field
import Gamebook.Story.Place

namespace Gamebook

open Checked Form

def Action.ofJson : Json → Checked Action
  | .obj ms => Action.mk <$> member ms "kind" (word ActionKind.ofName?) <*> member ms "argument" text
  | _       => fail .notRecord

namespace Place

def ofJson : Json → Checked Place
  | .obj ms =>
    (fun id description instructions finished choices =>
      { id, description, instructions, finished, choices := .ofList choices }) <$>
    member ms "id" text <*>
    memberOr ms "description" none (nullable text) <*>
    memberOr ms "instructions" none (nullable text) <*>
    memberOr ms "finished" false flag <*>
    memberOr ms "choices" [] (entries (fun k => orFail .notWord (Command.ofName? k)) (items Action.ofJson))
  | _ => fail .notRecord

end Place

-- A graph from data in which places and actions have the members of their own types. The id of a
-- place need not be its key.
def PlaceGraph.ofJson : Json → Checked PlaceGraph
  | .obj ms => (⟨.ofList ·⟩) <$> memberOr ms "places" [] (entries good Place.ofJson)
  | _       => fail .notRecord

end Gamebook
