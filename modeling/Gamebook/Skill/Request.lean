import Gamebook.Json.Basic
import Gamebook.Story.Command

namespace Gamebook
namespace Skill

-- What a voice assistant sends a request for.
inductive Occasion
  | launch
  | intent (name : String)
  | other
deriving DecidableEq, Repr

structure Request where
  isNew      : Bool
  recordId   : String
  attributes : List (String × Json)
  occasion   : Occasion

-- The command that a request stands for, and whether the player is prompted again after it.
structure Plan where
  command   : Option Command
  reprompts : Bool
deriving DecidableEq, Repr

def helpIntent : String := "AMAZON.HelpIntent"

def stopIntents : List String := ["AMAZON.StopIntent", "AMAZON.CancelIntent"]

-- The intents of the assistant itself stand for commands too.
def Plan.ofIntent (name : String) : Plan :=
  match Command.parse name with
  | some c => ⟨some c, true⟩
  | none   =>
    if name = helpIntent then ⟨some .help, true⟩
    else if stopIntents.contains name then ⟨some .quit, false⟩
    else ⟨none, true⟩

-- Only a launch and an intent are answered by a turn.
def Occasion.plan? : Occasion → Option Plan
  | launch   => some ⟨some .restart, true⟩
  | intent n => some (.ofIntent n)
  | other    => none

end Skill
end Gamebook
