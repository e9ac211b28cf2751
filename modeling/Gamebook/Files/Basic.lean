import Gamebook.Files.PathName

namespace Gamebook

-- Contents are compared as the core library does it, whatever else is imported.
attribute [local instance(2000)] ByteArray.instDecidableEq

-- Which version of a file this is. Some files come with a time, those that are written get a number.
inductive Stamp
  | given   (seconds : Int)
  | written (n : Nat)
deriving DecidableEq, Repr

inductive Entry
  | file   (content : ByteArray) (stamp : Stamp)
  | folder
deriving DecidableEq

inductive FileError
  | missing
  | isFolder
  | notFolder
  | taken
  | nameTooLong
  | unfitName
deriving DecidableEq, Repr

def FileError.message : FileError → String
  | .missing     => "No such file or directory"
  | .isFolder    => "Is a directory"
  | .notFolder   => "Not a directory"
  | .taken       => "File exists"
  | .nameTooLong => "File name too long"
  | .unfitName   => "Unfit name"

-- The files and folders of the area, and how often one of them has been written.
@[ext]
structure Files where
  entries : Ordered (List String) Entry
  writes  : Nat

namespace Files

def empty : Files :=
  ⟨.empty, 0⟩

-- What is found at a spot. The area itself and what is above it are folders.
def entry? (fs : Files) (s : Spot) : Option Entry :=
  if s.names.isEmpty then some .folder
  else if s.inside then fs.entries.get? s.names
  else none

def nameLimit : Nat := 255

-- One name further. There has to be a folder from which to go on.
def visit (fs : Files) (s : Spot) (name : String) : Except FileError Spot :=
  match fs.entry? s with
  | some .folder    => if nameLimit < name.utf8ByteSize then .error .nameTooLong else .ok (s.step name)
  | some (.file ..) => .error .notFolder
  | none            => .error .missing

-- No name has a null character in it.
def isFit (p : PathName) : Bool :=
  p.names.all fun n => !n.toList.contains '\x00'

-- Where a path name leads, whatever there is.
def resolve (p : PathName) : Except FileError Spot :=
  if isFit p then .ok (.ofPath p) else .error .unfitName

def locate (fs : Files) (p : PathName) : Except FileError Spot :=
  if isFit p then p.names.foldlM fs.visit (Spot.startOf p) else .error .unfitName

def status (fs : Files) (p : PathName) : Except FileError Entry := do
  match fs.entry? (← fs.locate p) with
  | some e => .ok e
  | none   => .error .missing

def read (fs : Files) (p : PathName) : Except FileError ByteArray := do
  match ← fs.status p with
  | .file content _ => .ok content
  | .folder         => .error .isFolder

-- Is there a file of this name? A name that is too long is an error, not a name of no file.
def isFile (fs : Files) (p : PathName) : Except FileError Bool :=
  match fs.status p with
  | .ok (.file ..)         => .ok true
  | .ok .folder            => .ok false
  | .error .nameTooLong    => .error .nameTooLong
  | .error _               => .ok false

def insert (fs : Files) (s : Spot) (e : Entry) : Files :=
  { fs with entries := fs.entries.insert s.names e }

-- Places a file. Its folder has to be there.
def place (fs : Files) (p : PathName) (e : Entry) : Except FileError Files := do
  let s ← fs.locate p
  match fs.entry? s with
  | some .folder => .error .isFolder
  | _            => if s.inside then .ok (fs.insert s e) else .error .missing

-- Writes a file anew.
def write (fs : Files) (p : PathName) (content : ByteArray) : Except FileError Files := do
  let fs ← fs.place p (.file content (.written fs.writes))
  return { fs with writes := fs.writes + 1 }

-- Makes the folders that are missing on the way.
def makeFolder (fs : Files) (p : PathName) : Except FileError Files :=
  if isFit p then go fs (Spot.startOf p) p.names else .error .unfitName
where
  go (fs : Files) (s : Spot) : List String → Except FileError Files
    | []      => .ok fs
    | n :: ns => do
      let t ← fs.visit s n
      match fs.entry? t with
      | some .folder    => go fs t ns
      | some (.file ..) => .error (if ns.isEmpty then .taken else .notFolder)
      | none            => if t.inside then go (fs.insert t .folder) t ns else .error .missing

def parent (p : PathName) : PathName :=
  { p with names := p.names.dropLast }

-- Places a file together with the folders above it.
def supply (fs : Files) (p : PathName) (e : Entry) : Except FileError Files :=
  match e with
  | .folder    => fs.makeFolder p
  | .file ..   => do (← fs.makeFolder (parent p)).place p e

-- Removes a file, or a folder with all that is in it.
def remove (fs : Files) (p : PathName) : Except FileError Files := do
  let s ← fs.locate p
  match fs.entry? s with
  | some _ => .ok { fs with entries := fs.entries.filter fun ns _ => !s.names.isPrefixOf ns }
  | none   => .error .missing

-- The names in a folder.
def names (fs : Files) (p : PathName) : List String :=
  match fs.locate p with
  | .ok s    => fs.entries.keys.filterMap fun ns =>
    if ns.dropLast = s.names && s.inside then ns.getLast? else none
  | .error _ => []

end Files
end Gamebook
