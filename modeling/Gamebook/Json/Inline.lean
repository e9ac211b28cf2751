import Gamebook.Datum

namespace Gamebook
namespace Json

mutual
-- A value as part of a line: texts are quoted, and the members of an object too.
def quoted : Json → String
  | null    => Scalar.null.toText
  | bool b  => (Scalar.bool b).toText
  | int i   => Scalar.intText i
  | float f => f.text
  | str s   => Text.quoted s
  | arr xs  => "[" ++ ", ".intercalate (quotedItems xs) ++ "]"
  | obj ms  => "\x7b" ++ ", ".intercalate (quotedMembers ms) ++ "\x7d"

def quotedItems : List Json → List String
  | []      => []
  | x :: xs => quoted x :: quotedItems xs

def quotedMembers : List (String × Json) → List String
  | []           => []
  | (k, x) :: ms => (Text.quoted k ++ ": " ++ quoted x) :: quotedMembers ms
end

-- Text that stands alone is not quoted.
def inline : Json → String
  | str s => s
  | j     => j.quoted

-- Zeros and what is empty count as nothing.
def isNothing : Json → Bool
  | null    => true
  | bool b  => !b
  | int i   => i = 0
  | float f => f.same (.zero false)
  | str s   => s = ""
  | arr xs  => xs.isEmpty
  | obj ms  => ms.isEmpty

end Json
end Gamebook
