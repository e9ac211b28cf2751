import Gamebook.Definition.Build
import Gamebook.Definition.Dump
import Gamebook.Json.Writer
import Gamebook.Text.Lower
import Gamebook.Yaml.Reading
import Gamebook.Yaml.Writer

namespace Gamebook
namespace Definition

inductive Format
  | json
  | yaml
deriving DecidableEq, Repr

-- The format that a name or file extension stands for, whatever its case. Points in front and
-- blanks around it do not count.
def Format.ofHint? (hint : Option String) : Option Format :=
  let key := (Text.fold (hint.getD "")).toList.dropWhile (· = '.')
  if key = "json".toList then some json
  else if key = "yaml".toList || key = "yml".toList then some yaml
  else none

def readJson (source : String) : Except Problem Datum :=
  match Json.read source with
  | .ok j                            => .ok (.ofJson j)
  | .error .numberTooLong            => .error .numberTooLong
  | .error (.malformed cause offset) =>
    let (line, column) := Json.position source offset
    .error (.invalidJson cause line column offset)

def readYaml (source : String) : Except Problem Datum :=
  match Yaml.read source with
  | .ok d               => .ok d
  | .error .malformed   => .error .invalidYaml
  | .error (.unfit why) => .error (.unfit why)

def readAs : Format → String → Except Problem Datum
  | .json => readJson
  | .yaml => readYaml

-- The graph that the text of a definition stands for.
def parse (source : String) (hint : Option String) : Except Problem PlaceGraph :=
  match Format.ofHint? hint with
  | some f => do build (← readAs f source)
  | none   => .error (.unsupportedFormat hint)

def writeAs : Format → PlaceGraph → String
  | .json, g => (dump g).render
  | .yaml, g => Yaml.render (dump g)

-- The text of a definition of the graph.
def write (g : PlaceGraph) (hint : String) : Except Problem String :=
  match Format.ofHint? hint with
  | some f => .ok (writeAs f g)
  | none   => .error (.unsupportedFormat hint)

end Definition
end Gamebook
