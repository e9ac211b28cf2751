namespace Gamebook
namespace Yaml

inductive Directive
  | version (major : Nat)
  | tag (handle uri : String)
  | other
deriving DecidableEq, Repr

-- The pieces of a YAML text. Block collections have their starts and ends among them, which are
-- seen only in the indentation.
inductive Token
  | directive (d : Directive)
  | documentStart
  | documentEnd
  | blockSequenceStart
  | blockMappingStart
  | blockEnd
  | flowSequenceStart
  | flowSequenceEnd
  | flowMappingStart
  | flowMappingEnd
  | blockEntry
  | flowEntry
  | key
  | value
  | alias (name : String)
  | anchor (name : String)
  | tag (handle : Option String) (suffix : String)
  | scalar (text : String) (plain : Bool)
deriving DecidableEq, Repr

end Yaml
end Gamebook
