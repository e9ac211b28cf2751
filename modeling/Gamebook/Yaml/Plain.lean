import Gamebook.Yaml.Cursor

namespace Gamebook
namespace Yaml
namespace Plain

def isFlowMark (c : Char) : Bool :=
  c = ',' || c = '[' || c = ']' || c = '\x7b' || c = '\x7d'

-- Does a colon before these characters end a plain scalar?
def colonEnds (flow : Bool) (cs : List Char) : Bool :=
  endsWord cs.head? || (flow && cs.head?.any isFlowMark)

-- The characters up to the next blank or mark that ends a plain scalar.
def word (flow : Bool) : List Char → List Char
  | []      => []
  | c :: cs =>
    if isWhite c || isBreak c then []
    else if c = ':' && colonEnds flow cs then []
    else if flow && (isFlowMark c || c = '?') then []
    else c :: word flow cs

-- The blanks between two words: what they are read as, where they end, whether the line ended in
-- them, and whether a document does.
structure Gap where
  text      : List Char
  cursor    : Cursor
  newline   : Bool
  separator : Bool

-- Further line breaks with spaces before them, up to a separator of documents.
def breaks (c : Cursor) : List Char × Cursor × Bool :=
  let c' := c.skipWhile (· = ' ')
  match _h : splitBreak? c'.rest with
  | none           => ([], c', false)
  | some (b, rest) =>
    let d := c'.moveTo rest
    if isSeparator d.rest then ([b], d, true)
    else
      let (bs, e, sep) := breaks d
      (b :: bs, e, sep)
termination_by c.rest.length
decreasing_by
  exact Nat.lt_of_lt_of_le (Cursor.length_moveTo_lt (length_of_splitBreak? _h))
    (Cursor.length_skipWhile_le _ _)

def gap (c : Cursor) : Gap :=
  let spaces := c.rest.takeWhile (· = ' ')
  let c' := c.skipWhile (· = ' ')
  match splitBreak? c'.rest with
  | none           => ⟨spaces, c', false, false⟩
  | some (b, rest) =>
    let d := c'.moveTo rest
    if isSeparator d.rest then ⟨[], d, true, true⟩
    else
      let (bs, e, sep) := breaks d
      let text := if b ≠ '\n' then b :: bs else if bs.isEmpty then [' '] else bs
      ⟨text, e, true, sep⟩

-- Words and the gaps between them. The last gap is skipped but not part of the text, and tells
-- whether a line ended there.
def read (flow : Bool) (indent : Int) : Nat → Cursor → List Char × Cursor × Bool
  | 0,        c => ([], c, false)
  | fuel + 1, c =>
    let w := word flow c.rest
    let g := gap (c.skip w.length)
    let next := word flow g.cursor.rest
    if g.separator || g.text.isEmpty || g.cursor.peek = some '#' || next.isEmpty ||
      (!flow && g.cursor.column < indent)
    then (w, g.cursor, g.newline)
    else
      let (s, d, newline) := read flow indent fuel g.cursor
      (w ++ g.text ++ s, d, newline)

end Plain
end Yaml
end Gamebook
