import Gamebook.Json.Reader
import Gamebook.Yaml.Cursor
import Gamebook.Yaml.Fault

namespace Gamebook
namespace Yaml
namespace Block

-- What is done with the breaks at the end of a block scalar.
inductive Chomping
  | strip
  | clip
  | keep
deriving DecidableEq, Repr

structure Header where
  chomping : Chomping
  indent   : Option Nat

def chomping? (c : Char) : Option Chomping :=
  if c = '+' then some .keep else if c = '-' then some .strip else none

-- An explicit indentation is a digit other than zero.
def indentDigit? (c : Char) : Option Nat :=
  if c.isDigit then some (c.toNat - 0x30) else none

def indentOf (c : Option Char) : Except Fault (Option Nat × Nat) :=
  match c.bind indentDigit? with
  | some 0 => .error .malformed
  | some n => .ok (some n, 1)
  | none   => .ok (none, 0)

-- The chomping sign and the indentation, in any order, each possibly missing, and how many
-- characters they take.
def header (cs : List Char) : Except Fault (Header × Nat) := do
  match cs.head?.bind chomping? with
  | some ch =>
    let (n, k) ← indentOf (cs.drop 1).head?
    return (⟨ch, n⟩, k + 1)
  | none =>
    let (n, k) ← indentOf cs.head?
    match (if k = 0 then none else (cs.drop 1).head?.bind chomping?) with
    | some ch => return (⟨ch, n⟩, k + 1)
    | none    => return (⟨.clip, n⟩, k)

-- Spaces, a comment and the end of the line.
def restOfLine (c : Cursor) : Except Fault Cursor :=
  let c := c.skipWhile (· = ' ')
  let c := if c.peek = some '#' then c.skipWhile (!isBreak ·) else c
  match splitBreak? c.rest with
  | some (_, rest) => .ok (c.moveTo rest)
  | none           => if c.rest.isEmpty then .ok c else .error .malformed

-- The empty lines before the text, and the widest column that spaces reach in them.
def leading (c : Cursor) (widest : Nat) : List Char × Nat × Cursor :=
  let d := c.skipWhile (· = ' ')
  let widest := if d.index = c.index then widest else max widest d.column
  match _h : splitBreak? d.rest with
  | none           => ([], widest, d)
  | some (b, rest) =>
    let (bs, w, e) := leading (d.moveTo rest) widest
    (b :: bs, w, e)
termination_by c.rest.length
decreasing_by
  exact Nat.lt_of_lt_of_le (Cursor.length_moveTo_lt (length_of_splitBreak? _h))
    (Cursor.length_skipWhile_le _ _)

-- Skips spaces up to a column.
def skipIndent (indent : Nat) (c : Cursor) : Cursor :=
  c.skip (min (indent - c.column) (c.rest.takeWhile (· = ' ')).length)

theorem length_skipIndent_le (indent : Nat) (c : Cursor) :
    (skipIndent indent c).rest.length ≤ c.rest.length := by
  simp [skipIndent]

-- Empty lines with at most the given indentation.
def breaks (indent : Nat) (c : Cursor) : List Char × Cursor :=
  let d := skipIndent indent c
  match _h : splitBreak? d.rest with
  | none           => ([], d)
  | some (b, rest) =>
    let (bs, e) := breaks indent (d.moveTo rest)
    (b :: bs, e)
termination_by c.rest.length
decreasing_by
  exact Nat.lt_of_lt_of_le (Cursor.length_moveTo_lt (length_of_splitBreak? _h))
    (length_skipIndent_le _ _)

-- The lines of the text, each with the breaks that join it to the next one, and the breaks that
-- are left at the end: the one that ends the last line and those after it.
def lines (folded : Bool) (indent : Nat) : Nat → Cursor → List Char × List Char × List Char × Cursor
  | 0,        c => ([], [], [], c)
  | fuel + 1, c =>
    let line := c.rest.takeWhile (!isBreak ·)
    let c := c.skip line.length
    let (first, c) := match splitBreak? c.rest with
      | some (b, rest) => ([b], c.moveTo rest)
      | none           => ([], c)
    let (more, c) := breaks indent c
    if c.column = indent && !c.rest.isEmpty then
      let plain := !line.head?.any isWhite && !c.peek.any isWhite
      let joint := if folded && first = ['\n'] && plain then
          (if more.isEmpty then [' '] else [])
        else first
      let (s, first, last, c) := lines folded indent fuel c
      (line ++ joint ++ more ++ s, first, last, c)
    else (line, first, more, c)

-- A literal or folded scalar in a block that is indented by `outer`. The cursor stands after the
-- sign that starts it.
def read (folded : Bool) (outer : Int) (c : Cursor) : Except Fault (List Char × Cursor) := do
  let (h, k) ← header c.rest
  let c := c.skip k
  if !endsPart c.peek then throw .malformed
  let c ← restOfLine c
  let least := max (outer + 1) 1 |>.toNat
  let (before, indent, c) := match h.indent with
    | none   =>
      let (bs, widest, c) := leading c 0
      (bs, max least widest, c)
    | some n =>
      let indent := least + n - 1
      let (bs, c) := breaks indent c
      (bs, indent, c)
  let (s, first, last, c) :=
    if c.column = indent && !c.rest.isEmpty then
      let (s, first, last, c) := lines folded indent (c.rest.length + 1) c
      (before ++ s, first, last, c)
    else ([], [], before, c)
  let tail := match h.chomping with
    | .strip => []
    | .clip  => first
    | .keep  => first ++ last
  return (s ++ tail, c)

end Block
end Yaml
end Gamebook
