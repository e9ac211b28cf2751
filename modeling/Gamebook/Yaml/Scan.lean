import Gamebook.Yaml.Block
import Gamebook.Yaml.Plain
import Gamebook.Yaml.Property
import Gamebook.Yaml.Quoted

namespace Gamebook
namespace Yaml

-- A place where a key may have started, which is known to be one only when a colon is met. It is
-- required to be one if the line starts there at the column of the block.
structure KeyStart where
  count    : Nat
  required : Bool
  index    : Nat
  line     : Nat
  column   : Nat

-- What is known between two tokens: the tokens so far, the last one first, and how many these are,
-- the columns of the open blocks, and for each level of flow collections, the innermost one first,
-- where a key may have started.
structure Scanner where
  cursor   : Cursor
  tokens   : List Token := []
  count    : Nat := 0
  indent   : Int := -1
  indents  : List Int := []
  allowKey : Bool := true
  keys     : List (Option KeyStart) := [none]

namespace Scanner

def inFlow (s : Scanner) : Bool :=
  1 < s.keys.length

def push (s : Scanner) (t : Token) : Scanner :=
  { s with tokens := t :: s.tokens, count := s.count + 1 }

-- Puts a token before those that came after the first `n`.
def insert (s : Scanner) (n : Nat) (t : Token) : Scanner :=
  let later := s.count - n
  { s with tokens := s.tokens.take later ++ t :: s.tokens.drop later, count := s.count + 1 }

def skip (s : Scanner) (n : Nat) : Scanner :=
  { s with cursor := s.cursor.skip n }

def moveTo (s : Scanner) (rest : List Char) : Scanner :=
  { s with cursor := s.cursor.moveTo rest }

-- Spaces, comments and line breaks. After a line break in a block a key may start.
def skipBlank (flow : Bool) (c : Cursor) (allow : Bool) : Cursor × Bool :=
  let d := c.skipWhile (· = ' ')
  let e := if d.peek = some '#' then d.skipWhile (!isBreak ·) else d
  match _h : splitBreak? e.rest with
  | none           => (e, allow)
  | some (_, rest) => skipBlank flow (e.moveTo rest) (allow || !flow)
termination_by c.rest.length
decreasing_by
  refine Nat.lt_of_lt_of_le (Cursor.length_moveTo_lt (length_of_splitBreak? _h)) ?_
  refine Nat.le_trans ?_ (Cursor.length_skipWhile_le (· = ' ') c)
  split
  · exact Cursor.length_skipWhile_le _ _
  · exact Nat.le_refl _

def toNextToken (s : Scanner) : Scanner :=
  let c := if s.cursor.index = 0 && s.cursor.peek = some '\ufeff' then s.cursor.step else s.cursor
  let (c, allow) := skipBlank s.inFlow c s.allowKey
  { s with cursor := c, allowKey := allow }

-- The characters over which a key may extend.
def keyLimit : Nat := 1024

def isStale (c : Cursor) (k : KeyStart) : Bool :=
  k.line ≠ c.line || k.index + keyLimit < c.index

-- A key has to be on one line and not too long.
def dropStaleKeys (s : Scanner) : Except Fault Scanner :=
  if s.keys.any fun k => k.any fun k => k.required && isStale s.cursor k then .error .malformed
  else .ok { s with keys := s.keys.map fun k => k.filter fun k => !isStale s.cursor k }

-- Closes the blocks that are indented more than the given column.
def closeBlocks (s : Scanner) (column : Int) : Scanner :=
  if s.inFlow then s
  else
    let closed := (s.indent :: s.indents).takeWhile (column < ·)
    let left := (s.indent :: s.indents).drop closed.length
    { s with
      tokens  := List.replicate closed.length .blockEnd ++ s.tokens
      count   := s.count + closed.length
      indent  := left.headD (-1)
      indents := left.drop 1 }

-- Opens a block at a column that is beyond the present one.
def openBlock (s : Scanner) (column : Int) : Option Scanner :=
  if s.indent < column then some { s with indent := column, indents := s.indent :: s.indents }
  else none

def forgetKey (s : Scanner) : Except Fault Scanner :=
  match s.keys with
  | some k :: ks => if k.required then .error .malformed else .ok { s with keys := none :: ks }
  | _            => .ok s

def rememberKey (s : Scanner) : Except Fault Scanner :=
  if s.allowKey then do
    let c := s.cursor
    let required := !s.inFlow && s.indent == c.column
    let s' ← s.forgetKey
    return { s' with keys := some ⟨s.count, required, c.index, c.line, c.column⟩ :: s'.keys.drop 1 }
  else .ok s

def disallowKey (s : Scanner) : Scanner :=
  { s with allowKey := false }

-- All that ends with a document.
def closeDocument (s : Scanner) : Except Fault Scanner := do
  return (← (s.closeBlocks (-1)).forgetKey).disallowKey

def column (s : Scanner) : Int :=
  s.cursor.column

def fetchDirective (s : Scanner) : Except Fault Scanner := do
  let s ← s.closeDocument
  let (d, rest) ← Property.directive (s.cursor.rest.drop 1)
  return { s.push (.directive d) with cursor := ← Block.restOfLine (s.cursor.moveTo rest) }

def fetchSeparator (s : Scanner) (t : Token) : Except Fault Scanner := do
  return ((← s.closeDocument).push t).skip 3

def fetchFlowStart (s : Scanner) (t : Token) : Except Fault Scanner := do
  let s ← s.rememberKey
  return { (s.push t).skip 1 with keys := none :: s.keys, allowKey := true }

def fetchFlowEnd (s : Scanner) (t : Token) : Except Fault Scanner := do
  if !s.inFlow then throw .malformed
  let s ← s.forgetKey
  return { (s.push t).skip 1 with keys := s.keys.drop 1, allowKey := false }

def fetchFlowEntry (s : Scanner) : Except Fault Scanner := do
  return ((← { s with allowKey := true }.forgetKey).push .flowEntry).skip 1

-- In a block, an entry or an explicit key needs a place where a key may start, and opens the
-- collection unless that is open already.
def openEntry (s : Scanner) (collection : Token) : Except Fault Scanner :=
  if s.inFlow then .ok s
  else if !s.allowKey then .error .malformed
  else .ok (((s.openBlock s.column).map (·.push collection)).getD s)

def fetchBlockEntry (s : Scanner) : Except Fault Scanner := do
  let s ← s.openEntry .blockSequenceStart
  return ((← { s with allowKey := true }.forgetKey).push .blockEntry).skip 1

def fetchKey (s : Scanner) : Except Fault Scanner := do
  let s ← s.openEntry .blockMappingStart
  return ((← { s with allowKey := !s.inFlow }.forgetKey).push .key).skip 1

def fetchValue (s : Scanner) : Except Fault Scanner := do
  match s.keys with
  | some k :: ks =>
    let s := { s with keys := none :: ks }.insert k.count .key
    let s := if s.inFlow then s
      else ((s.openBlock k.column).map (·.insert k.count .blockMappingStart)).getD s
    return (s.disallowKey.push .value).skip 1
  | _ =>
    let s ← s.openEntry .blockMappingStart
    return ((← { s with allowKey := !s.inFlow }.forgetKey).push .value).skip 1

def fetchNamed (s : Scanner) (read : List Char → Except Fault (Property.Rest Token)) : Except Fault Scanner := do
  let s ← s.rememberKey
  let (t, rest) ← read (s.cursor.rest.drop 1)
  return (s.disallowKey.push t).moveTo rest

def fetchBlockScalar (s : Scanner) (folded : Bool) : Except Fault Scanner := do
  let s ← { s with allowKey := true }.forgetKey
  let (text, c) ← Block.read folded s.indent (s.cursor.skip 1)
  return { s.push (.scalar (String.ofList text) false) with cursor := c }

def fetchQuoted (s : Scanner) (double : Bool) : Except Fault Scanner := do
  let s ← s.rememberKey
  let (text, rest) ← Quoted.read double (s.cursor.rest.drop 1)
  return (s.disallowKey.push (.scalar (String.ofList text) false)).moveTo rest

def fetchPlain (s : Scanner) : Except Fault Scanner := do
  let s ← s.rememberKey
  let (text, c, newline) := Plain.read s.inFlow (s.indent + 1) s.cursor.rest.length s.cursor
  return { s.push (.scalar (String.ofList text) true) with cursor := c, allowKey := newline }

-- Characters that a plain scalar does not start with, some of them unless a word follows.
def indicators : List Char :=
  "-?:,[]\x7b\x7d#&*!|>%@".toList ++ [Text.apostrophe, Text.quotation, Char.ofNat 0x60]

def startsPlain (flow : Bool) (c : Char) (next : Option Char) : Bool :=
  !(isWhite c || isBreak c || indicators.contains c) ||
    (!endsWord next && (c = '-' || (!flow && (c = '?' || c = ':'))))

-- Reads the next token, and what goes before it, where `c` is the next character.
def fetch (s : Scanner) (c : Char) : Except Fault Scanner :=
  let next := s.cursor.peekAt 1
  let atSeparator := s.cursor.column = 0 && isSeparator s.cursor.rest
  if c = '%' && s.cursor.column = 0 then s.fetchDirective
  else if c = '-' && atSeparator then s.fetchSeparator .documentStart
  else if c = '.' && atSeparator then s.fetchSeparator .documentEnd
  else if c = '[' then s.fetchFlowStart .flowSequenceStart
  else if c = '\x7b' then s.fetchFlowStart .flowMappingStart
  else if c = ']' then s.fetchFlowEnd .flowSequenceEnd
  else if c = '\x7d' then s.fetchFlowEnd .flowMappingEnd
  else if c = ',' then s.fetchFlowEntry
  else if c = '-' && endsWord next then s.fetchBlockEntry
  else if c = '?' && (s.inFlow || endsWord next) then s.fetchKey
  else if c = ':' && (s.inFlow || endsWord next) then s.fetchValue
  else if c = '*' then s.fetchNamed fun cs => (Property.anchor cs).map fun (n, r) => (.alias n, r)
  else if c = '&' then s.fetchNamed fun cs => (Property.anchor cs).map fun (n, r) => (.anchor n, r)
  else if c = '!' then s.fetchNamed Property.tag
  else if c = '|' && !s.inFlow then s.fetchBlockScalar false
  else if c = '>' && !s.inFlow then s.fetchBlockScalar true
  else if c = Text.apostrophe then s.fetchQuoted false
  else if c = Text.quotation then s.fetchQuoted true
  else if startsPlain s.inFlow c next then s.fetchPlain
  else .error .malformed

-- Every token takes at least one character, so that the text's length is enough fuel.
def run : Nat → Scanner → Except Fault (List Token)
  | 0,        _ => .error .malformed
  | fuel + 1, s => do
    let s ← s.toNextToken.dropStaleKeys
    let s := s.closeBlocks s.column
    match s.cursor.peek with
    | some c => run fuel (← s.fetch c)
    | none   => return (← (s.closeBlocks (-1)).forgetKey).tokens.reverse

end Scanner

-- The characters that a text may hold.
def isAllowed (c : Char) : Bool :=
  let n := c.toNat
  n = 0x09 || n = 0x0a || n = 0x0d || (0x20 ≤ n && n ≤ 0x7e) || n = 0x85 ||
  (0xa0 ≤ n && n ≤ 0xd7ff) || (0xe000 ≤ n && n ≤ 0xfffd) || 0x10000 ≤ n

def Token.scan (cs : List Char) : Except Fault (List Token) :=
  if cs.all isAllowed then Scanner.run (cs.length + 1) { cursor := { rest := cs } }
  else .error .malformed

end Yaml
end Gamebook
