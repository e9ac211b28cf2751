import Gamebook.Number.Binary64
import Gamebook.Ordered

namespace Gamebook

-- Values of the JSON data format. The members of an object have distinct names, in the order in
-- which these first came.
inductive Json
  | null
  | bool  (b : Bool)
  | int   (i : Int)
  | float (f : Binary64)
  | str   (s : String)
  | arr   (items : List Json)
  | obj   (members : List (String × Json))
deriving Inhabited

namespace Json

def ofOption (f : α → Json) : Option α → Json
  | some a => f a
  | none   => null

def get? (members : List (String × Json)) (name : String) : Option Json :=
  (members.find? (·.1 = name)).map Prod.snd

def isNull : Json → Bool
  | null => true
  | _    => false

mutual
-- Is some part of a value, other than the arrays and objects in it, of a given kind?
def anyScalar (p : Json → Bool) : Json → Bool
  | arr xs => anyItem p xs
  | obj ms => anyMember p ms
  | j      => p j

def anyItem (p : Json → Bool) : List Json → Bool
  | []      => false
  | x :: xs => anyScalar p x || anyItem p xs

def anyMember (p : Json → Bool) : List (String × Json) → Bool
  | []           => false
  | (_, x) :: ms => anyScalar p x || anyMember p ms
end

end Json
end Gamebook
