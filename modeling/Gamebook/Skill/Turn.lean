import Gamebook.Skill.Request
import Gamebook.Speech
import Gamebook.Story.Turn

namespace Gamebook
namespace Skill

-- What a request has come to: the player after it, what is said, and what is said again if the
-- player stays silent.
structure Turn where
  player   : Player
  response : Response
  reprompt : Option Response

namespace Turn

-- Reprompts are for help. They do not count among the player's commands.
def take (g : PlaceGraph) (now : Timestamp) (p : Player) (plan : Plan) : Turn :=
  let (q, r) := match plan.command with
    | some c => p.attempt g now c
    | none   => (p, .single .notUnderstood)
  ⟨q, r, if plan.reprompts then some (q.attempt g now .help).2 else none⟩

def finishes (t : Turn) : Bool :=
  t.response.flatten.contains .finished

end Turn

-- What the assistant is answered. The player goes along with it, so as to come back with the next
-- request.
inductive Answer
  | nothing
  | spoken (speech : String) (reprompt : Option String) (ends : Bool) (player : Option Player)
deriving DecidableEq, Repr

namespace Answer

def outputSpeech (text : String) : String × Json :=
  ("outputSpeech", .obj [("type", .str "SSML"), ("ssml", .str text)])

def attributes : Answer → Json
  | nothing         => .obj []
  | spoken _ _ _ p => .obj (p.map fun p => ("player", p.toJson)).toList

def response : Answer → Json
  | nothing        => .obj []
  | spoken s r e _ =>
    .obj ([outputSpeech s, ("shouldEndSession", .bool e)] ++
      (r.map fun r => ("reprompt", Json.obj [outputSpeech r])).toList)

def toJson (a : Answer) : Json :=
  .obj [
    ("version", .str "1.0"),
    ("sessionAttributes", a.attributes),
    ("response", a.response)
  ]

end Answer
end Skill
end Gamebook
