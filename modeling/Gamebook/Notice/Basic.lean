import Gamebook.Json.Inline
import Gamebook.Json.Writer

namespace Gamebook

-- What others learn about a player who has reached an ending.
inductive Notice
  | post (url : String) (authorization : Option String) (body : Json)
  | log (line : String)

namespace Notice

-- Why a notice has not arrived.
inductive Fault
  | status (code : Int)
  | unreachable (url : String)
  | timeout (seconds : String)
  | failed (url reason : String)
  | notAddress
  | notAscii
  | notPortable
deriving DecidableEq, Repr

namespace Fault

def message : Fault → String
  | status n      => "Notification endpoint returned HTTP " ++ Scalar.intText n
  | unreachable u => "Cannot connect to notification endpoint at " ++ u
  | timeout s     => "Notification endpoint timed out after " ++ s ++ "s"
  | failed u r    => "Notification to " ++ u ++ " failed: " ++ r
  | notAddress    => "Invalid type for url"
  | notAscii      => "Authorization is not ASCII"
  | notPortable   => "Summary cannot be written"

-- What goes wrong on the way is expected. That nothing can be sent at all is not.
def isExpected : Fault → Bool
  | notAddress | notAscii | notPortable => false
  | _                                   => true

end Fault

-- The line that stands for a notice if it is not to be sent anywhere.
def line (summary : List (String × Json)) : String :=
  let member (name : String) : String := ((Json.get? summary name).getD .null).inline
  "adventure finished record=" ++ member "record_id" ++ " attempts=" ++ member "attempts" ++
    " commands=" ++ member "commands_issued"

end Notice
end Gamebook
