import Gamebook.Definition.Source
import Gamebook.Files.Basic
import Gamebook.Files.Text

namespace Gamebook
namespace Definition

-- Why a file gives no graph.
inductive LoadError
  | file (e : FileError)
  | notText
  | problem (p : Problem)
deriving DecidableEq, Repr

-- The graph that a file defines. The extension of its name tells the format.
def load (fs : Files) (p : PathName) : Except LoadError PlaceGraph := do
  let content ← (fs.read p).mapError .file
  match FileText.decode content with
  | some source => (parse source (some p.suffix)).mapError .problem
  | none        => .error .notText

-- A graph, and the version of the file that it was loaded from.
structure Loaded where
  stamp : Stamp
  graph : PlaceGraph
deriving DecidableEq, Repr

-- What has been loaded so far, by where it was found.
abbrev Cache := Ordered Spot Loaded

namespace Cache

def fresh? (c : Cache) (s : Spot) (stamp : Stamp) : Option PlaceGraph := do
  let l ← c.get? s
  if l.stamp = stamp then some l.graph else none

def loadAnew (fs : Files) (c : Cache) (s : Spot) (stamp : Stamp) :
    Cache × Except LoadError PlaceGraph :=
  match load fs s.toPath with
  | .ok g    => (c.insert s ⟨stamp, g⟩, .ok g)
  | .error e => (c, .error e)

-- Loads the file at a spot unless the version that is there has been loaded before.
def loadAt (fs : Files) (c : Cache) (s : Spot) : Cache × Except LoadError PlaceGraph :=
  match fs.status s.toPath with
  | .error e            => (c, .error (.file e))
  | .ok .folder         => (c, .error (.file .isFolder))
  | .ok (.file _ stamp) => match c.fresh? s stamp with
    | some g => (c, .ok g)
    | none   => loadAnew fs c s stamp

def load (fs : Files) (c : Cache) (p : PathName) : Cache × Except LoadError PlaceGraph :=
  match Files.resolve p with
  | .error e => (c, .error (.file e))
  | .ok s    => loadAt fs c s

end Cache
end Definition
end Gamebook
