import Gamebook.Datum

namespace Gamebook

-- One step down into a value: to a member of an object or to an item of an array.
inductive Step
  | key   (name : String)
  | index (n : Nat)
deriving DecidableEq, Repr

-- Where in a value something is: the steps that lead there from the top.
abbrev Path := List Step

namespace Path

def append (text : String) : Step → String
  | .key name => if text = "" then name else text ++ "." ++ name
  | .index n  => text ++ "[" ++ Scalar.intText n ++ "]"

-- Keys stand between points and positions in brackets.
def text (p : Path) : String :=
  p.foldl append ""

end Path
end Gamebook
