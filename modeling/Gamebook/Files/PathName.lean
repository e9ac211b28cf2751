import Gamebook.Ordered

namespace Gamebook

-- The name of a file or folder: where it starts from, and the names on the way.
@[ext]
structure PathName where
  root  : String
  names : List String
deriving DecidableEq, Repr

namespace PathName

def ofNames (names : List String) : PathName :=
  ⟨"", names⟩

def separator : Char := '/'

-- Two slashes in front are told apart from one. More of them are not.
def rootOf (text : List Char) : String :=
  match (text.takeWhile (· = separator)).length with
  | 0 => ""
  | 2 => "//"
  | _ => "/"

-- Empty names and points that stand for themselves are left out.
def ofText (text : String) : PathName :=
  let names := (text.toList.splitOn separator).map String.ofList
  ⟨rootOf text.toList, names.filter fun n => n ≠ "" && n ≠ "."⟩

def isAbsolute (p : PathName) : Bool :=
  p.root ≠ ""

def text (p : PathName) : String :=
  if p.root = "" && p.names.isEmpty then "." else p.root ++ "/".intercalate p.names

-- What `q` is called from where `p` leads.
def append (p q : PathName) : PathName :=
  if q.isAbsolute then q else ⟨p.root, p.names ++ q.names⟩

instance : Append PathName := ⟨append⟩

def name (p : PathName) : String :=
  p.names.getLastD ""

-- The last point of a name and what follows it, unless one of its two sides is empty.
def suffixOf (name : List Char) : List Char :=
  let after := name.reverse.takeWhile (· ≠ '.')
  if after.isEmpty || name.length ≤ after.length + 1 then [] else '.' :: after.reverse

def suffix (p : PathName) : String :=
  String.ofList (suffixOf p.name.toList)

end PathName

-- Where a path name leads. Of what is not inside the area only the folders above it are known.
@[ext]
structure Spot where
  inside : Bool
  names  : List String
deriving DecidableEq, Repr

namespace Spot

def up : String := ".."

def step (s : Spot) (name : String) : Spot :=
  if name = up then if s.names.isEmpty then ⟨false, []⟩ else ⟨s.inside, s.names.dropLast⟩
  else ⟨s.inside, s.names ++ [name]⟩

def startOf (p : PathName) : Spot :=
  ⟨!p.isAbsolute, []⟩

-- The way up from a name leads back to where the name was given, whatever there is.
def ofPath (p : PathName) : Spot :=
  p.names.foldl step (startOf p)

def toPath (s : Spot) : PathName :=
  ⟨if s.inside then "" else "/", s.names⟩

end Spot
end Gamebook
