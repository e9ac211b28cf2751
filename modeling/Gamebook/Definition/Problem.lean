import Gamebook.Json.Reader
import Gamebook.Path
import Gamebook.Yaml.Fault

namespace Gamebook
namespace Definition

-- What a node of a definition has to be.
inductive Expected
  | object
  | array
  | string
  | boolean
deriving DecidableEq, Repr

def Expected.name : Expected → String
  | object  => "object"
  | array   => "array"
  | string  => "string"
  | boolean => "boolean"

-- What is wrong with a definition. A number with too many digits and an unfit scalar are no faults
-- of its form, and are not told to its author.
inductive Problem
  | unsupportedFormat (format : Option String)
  | invalidJson (cause : Json.Cause) (line column offset : Nat)
  | invalidYaml
  | numberTooLong
  | unfit (why : Yaml.Unfit)
  | topLevel (found : String)
  | mismatch (expected : Expected) (path : Path) (found : String)
  | unknownCommand (name : String) (path : Path)
  | unknownAction (name : String) (path : Path)
  | actionShape (path : Path) (found : String)
  | argument (path : Path) (found : String)
deriving DecidableEq, Repr

namespace Problem

def path : Problem → Path
  | mismatch _ p _     => p
  | unknownCommand _ p => p
  | unknownAction _ p  => p
  | actionShape p _    => p
  | argument p _       => p
  | _                  => []

def message : Problem → String
  | unsupportedFormat f  => "Unsupported file format: " ++ f.elim "None" Text.quoted
  | invalidJson c l k o  =>
    "Invalid JSON: " ++ c.message ++ ": line " ++ Scalar.intText l ++ " column " ++
      Scalar.intText k ++ " (char " ++ Scalar.intText o ++ ")"
  | invalidYaml          => "Invalid YAML"
  | numberTooLong        => "Exceeds the limit of digits for a number"
  | unfit _              => "Unfit scalar"
  | topLevel f           => "Expected object at top level but found " ++ f ++ " instead."
  | mismatch e p f       => expected e.name p f
  | unknownCommand n p   => "Illegal value for choice (" ++ n ++ ") at " ++ p.text
  | unknownAction n p    => "Illegal key for action (" ++ n ++ ") at " ++ p.text
  | actionShape p f      => expected "object with a single action key" p f
  | argument p f         => expected "string" p f
where
  expected (what : String) (p : Path) (found : String) : String :=
    "Expected " ++ what ++ " at " ++ p.text ++ " but found " ++ found ++ " instead."

def isReported : Problem → Bool
  | numberTooLong | unfit _ => false
  | _                       => true

end Problem
end Definition
end Gamebook
