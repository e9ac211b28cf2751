import Gamebook.Json.Writer
import Gamebook.Yaml.Style

namespace Gamebook
namespace Yaml

-- What has been written, backwards, the column that it has reached, whether that follows a blank,
-- and whether only indentation and signs of entries precede it on its line.
structure Pen where
  written : List Char := []
  column  : Nat := 0
  blank   : Bool := true
  fresh   : Bool := true

namespace Pen

-- Where lines are folded.
def width : Nat := 80

def write (p : Pen) (cs : List Char) : Pen :=
  { p with written := cs.reverse ++ p.written, column := p.column + cs.length }

def mark (p : Pen) (cs : List Char) (needsBlank blank fresh : Bool) : Pen :=
  { p.write (if p.blank || !needsBlank then cs else ' ' :: cs) with
    blank, fresh := p.fresh && fresh }

def lineBreak (p : Pen) (c : Char) : Pen :=
  { written := c :: p.written, column := 0, blank := true, fresh := true }

-- Goes to a column, on a new line if the present one is in use.
def toColumn (p : Pen) (n : Nat) : Pen :=
  let p := if !p.fresh || n < p.column || (p.column = n && !p.blank) then p.lineBreak '\n' else p
  if p.column < n then { p.write (List.replicate (n - p.column) ' ') with blank := true } else p

def isFull (p : Pen) (pending : Nat) : Bool :=
  width < p.column + pending

def occupied (p : Pen) : Pen :=
  { p with blank := false, fresh := false }

end Pen

-- Each writer takes the column for the lines on which it continues and whether it may do so.

-- The words of a text that has no line break. A line may end at a single space between them.
def writeWords (column : Nat) (split : Bool) (p : Pen) (cs : List Char) : Pen :=
  match cs with
  | []      => p
  | c :: cs =>
    if c = ' ' then
      let more := cs.takeWhile (· = ' ')
      let p := if split && p.isFull 0 && more.isEmpty then (p.toColumn column).occupied
        else p.write (c :: more)
      writeWords column split p (cs.dropWhile (· = ' '))
    else writeWords column split (p.write [c]) cs
termination_by cs.length
decreasing_by
  · exact Nat.lt_succ_of_le (List.dropWhile_suffix _).length_le
  · simp

def writePlain (column : Nat) (split : Bool) (p : Pen) (cs : List Char) : Pen :=
  let p := if p.blank then p else p.write [' ']
  writeWords column split p.occupied cs

-- The body of a text between apostrophes. A run of line breaks that starts with a line feed is
-- written with one more, since a single one would be folded.
def writeSingleBody (column : Nat) (split : Bool) (p : Pen) (start : Bool) (cs : List Char) : Pen :=
  match cs with
  | []      => p
  | c :: cs =>
    if c = ' ' then
      let more := cs.takeWhile (· = ' ')
      let rest := cs.dropWhile (· = ' ')
      let p := if split && p.isFull 0 && more.isEmpty && !start && !rest.isEmpty then
          p.toColumn column
        else p.write (c :: more)
      writeSingleBody column split p false rest
    else if Style.isLineBreak c then
      let run := c :: cs.takeWhile Style.isLineBreak
      let p := if c = '\n' then p.lineBreak '\n' else p
      let p := (run.foldl Pen.lineBreak p).toColumn column
      writeSingleBody column split p false (cs.dropWhile Style.isLineBreak)
    else if c = Text.apostrophe then
      writeSingleBody column split (p.write [c, c]) false cs
    else writeSingleBody column split (p.write [c]) false cs
termination_by cs.length
decreasing_by
  · exact Nat.lt_succ_of_le (List.dropWhile_suffix _).length_le
  · exact Nat.lt_succ_of_le (List.dropWhile_suffix _).length_le
  · simp
  · simp

def writeSingle (column : Nat) (split : Bool) (p : Pen) (cs : List Char) : Pen :=
  let p := p.mark [Text.apostrophe] true false false
  (writeSingleBody column split p true cs).mark [Text.apostrophe] false false false

def upperHex (width n : Nat) : List Char :=
  (Text.hexDigits width n).map Char.toUpper

-- The characters that a backslash and one letter stand for.
def shortEscapes : List (Char × Char) := [
  ('\x00', '0'), ('\x07', 'a'), ('\x08', 'b'), ('\t', 't'), ('\n', 'n'), ('\x0b', 'v'),
  ('\x0c', 'f'), ('\r', 'r'), ('\x1b', 'e'), (Text.quotation, Text.quotation),
  (Text.backslash, Text.backslash), ('\x85', 'N'), ('\xa0', '_'), ('\u2028', 'L'), ('\u2029', 'P')
]

def isVerbatim (c : Char) : Bool :=
  let n := c.toNat
  c ≠ Text.quotation && c ≠ Text.backslash &&
    ((0x20 ≤ n && n ≤ 0x7e) ||
      (0xa0 ≤ n && n ≤ 0xfffd && n ≠ 0x2028 && n ≠ 0x2029 && n ≠ 0xfeff))

def escape (c : Char) : List Char :=
  let n := c.toNat
  match shortEscapes.find? (·.1 = c) with
  | some e => [Text.backslash, e.2]
  | none   =>
    if n ≤ 0xff then Text.backslash :: 'x' :: upperHex 2 n
    else if n ≤ 0xffff then Text.backslash :: 'u' :: upperHex 4 n
    else Text.backslash :: 'U' :: upperHex 8 n

-- Ends a line by a backslash. A space at the start of the next one needs a backslash too.
def continueLine (column : Nat) (p : Pen) (next : Option Char) : Pen :=
  let p := ((p.write [Text.backslash]).toColumn column).occupied
  if next = some ' ' then p.write [Text.backslash] else p

-- The body of a text between quotation marks. `run` holds the characters, backwards, that wait to
-- be written together, and `start` tells that there were none at all.
def writeDoubleBody (column : Nat) (split : Bool) (p : Pen) (start : Bool) (run : List Char) :
    List Char → Pen
  | []      => p.write run.reverse
  | c :: cs =>
    let inside := split && !start && !cs.isEmpty
    if isVerbatim c then
      if inside && (c = ' ' || run.isEmpty) && p.isFull run.length then
        writeDoubleBody column split (continueLine column (p.write run.reverse) (some c)) false [c] cs
      else writeDoubleBody column split p false (c :: run) cs
    else
      let p := (p.write run.reverse).write (escape c)
      let p := if inside && Pen.width + 1 < p.column then continueLine column p cs.head? else p
      writeDoubleBody column split p false [] cs

def writeDouble (column : Nat) (split : Bool) (p : Pen) (cs : List Char) : Pen :=
  let p := p.mark [Text.quotation] true false false
  (writeDoubleBody column split p true [] cs).mark [Text.quotation] false false false

def writeText (column : Nat) (split : Bool) (p : Pen) (s : String) : Pen :=
  let cs := s.toList
  match Style.choose cs with
  | .plain  => writePlain column split p cs
  | .single => writeSingle column split p cs
  | .double => writeDouble column split p cs

-- The key of an entry and its colon. A key that is empty, long or has line breaks is marked, and
-- its value starts a line.
def writeKey (column : Nat) (p : Pen) (k : String) : Pen :=
  let p := p.toColumn column
  if Style.isSimpleKey k.toList then
    (writeText (column + 2) false p k).mark [':'] false false false
  else
    let p := writeText (column + 2) true (p.mark ['?'] true false true) k
    (p.toColumn column).mark [':'] true false true

def isLeaf : Json → Bool
  | .arr (_ :: _) | .obj (_ :: _) => false
  | _ => true

-- A scalar or an empty collection in a block at the given column.
def writeLeaf (column : Nat) (p : Pen) : Json → Pen
  | .str s => writeText (column + 2) true p s
  | .arr _ => (p.mark ['['] true true false).mark [']'] false false false
  | .obj _ => (p.mark ['\x7b'] true true false).mark ['\x7d'] false false false
  | j      => writePlain (column + 2) true p (Json.writeCompact j)

mutual
-- A value in a mapping whose keys stand at the given column. The dashes of a sequence stand there
-- too, unless the value follows a marked key.
def writeValue (column : Nat) (p : Pen) : Json → Pen
  | .arr (x :: xs) => writeItems (if p.fresh then column + 2 else column) p (x :: xs)
  | .obj (m :: ms) => writeEntries (column + 2) p (m :: ms)
  | j              => writeLeaf column p j

def writeEntries (column : Nat) (p : Pen) : List (String × Json) → Pen
  | []           => p
  | (k, x) :: ms => writeEntries column (writeValue column (writeKey column p k) x) ms

def writeItems (column : Nat) (p : Pen) : List Json → Pen
  | []      => p
  | x :: xs => writeItems column (writeItem column ((p.toColumn column).mark ['-'] true false true) x) xs

def writeItem (column : Nat) (p : Pen) : Json → Pen
  | .arr (x :: xs) => writeItems (column + 2) p (x :: xs)
  | .obj (m :: ms) => writeEntries (column + 2) p (m :: ms)
  | j              => writeLeaf column p j
end

-- The text of a value as a YAML document in block style.
def render (j : Json) : String :=
  let p := match j with
    | .arr xs => if xs.isEmpty then writeLeaf 0 {} j else writeItems 0 {} xs
    | .obj ms => if ms.isEmpty then writeLeaf 0 {} j else writeEntries 0 {} ms
    | j       => writeLeaf 0 {} j
  String.ofList (p.toColumn 0).written.reverse

end Yaml
end Gamebook
