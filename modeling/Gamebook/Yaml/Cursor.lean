namespace Gamebook
namespace Yaml

def isBreak (c : Char) : Bool :=
  c = '\n' || c = '\r' || c = '\x85' || c = '\u2028' || c = '\u2029'

def isWhite (c : Char) : Bool :=
  c = ' ' || c = '\t'

def isWord (c : Char) : Bool :=
  c.isAlphanum || c = '-' || c = '_'

-- What can stand after a word, after a part of a directive and at the end of a line. The end of the
-- text is all of these.

def endsWord (c : Option Char) : Bool :=
  c.all fun c => isWhite c || isBreak c

def endsPart (c : Option Char) : Bool :=
  c.all fun c => c = ' ' || isBreak c

def endsLine (c : Option Char) : Bool :=
  c.all isBreak

-- The line feed that a break stands for, or the separator that it is, and what follows it.
def splitBreak? : List Char → Option (Char × List Char)
  | '\r' :: '\n' :: cs => some ('\n', cs)
  | c :: cs =>
    if c = '\n' || c = '\r' || c = '\x85' then some ('\n', cs)
    else if c = '\u2028' || c = '\u2029' then some (c, cs)
    else none
  | [] => none

theorem length_of_splitBreak? {cs rest : List Char} {c : Char}
    (h : splitBreak? cs = some (c, rest)) : rest.length < cs.length := by
  unfold splitBreak? at h
  split at h
  · cases h; simp only [List.length_cons]; omega
  · split at h
    · cases h; simp
    · split at h
      · cases h; simp
      · contradiction
  · contradiction

-- Three dashes or three points, and the end of a word.
def isSeparator (cs : List Char) : Bool :=
  (['-', '-', '-'].isPrefixOf cs || ['.', '.', '.'].isPrefixOf cs) && endsWord (cs.drop 3).head?

-- A place in a text: what follows it, and how far from the start of the text and of its line it is.
structure Cursor where
  rest   : List Char
  index  : Nat := 0
  line   : Nat := 0
  column : Nat := 0

namespace Cursor

def peek (c : Cursor) : Option Char :=
  c.rest.head?

def peekAt (c : Cursor) (n : Nat) : Option Char :=
  (c.rest.drop n).head?

-- A byte order mark takes no column. A carriage return ends its line unless a line feed does.
def step (c : Cursor) : Cursor :=
  match c.rest with
  | []        => c
  | ch :: rest =>
    if isBreak ch && !(ch = '\r' && rest.head? = some '\n') then
      { rest, index := c.index + 1, line := c.line + 1, column := 0 }
    else if ch = '\ufeff' then { c with rest, index := c.index + 1 }
    else { c with rest, index := c.index + 1, column := c.column + 1 }

def skip (c : Cursor) : Nat → Cursor
  | 0     => c
  | n + 1 => c.step.skip n

theorem rest_step (c : Cursor) : c.step.rest = c.rest.drop 1 := by
  unfold step
  split
  · simp [*]
  · split
    · simp [*]
    · split <;> simp [*]

@[simp]
theorem rest_skip (c : Cursor) (n : Nat) : (c.skip n).rest = c.rest.drop n := by
  induction n generalizing c with
  | zero => rfl
  | succ n ih => rw [skip, ih, rest_step, List.drop_drop, Nat.add_comm]

def skipWhile (p : Char → Bool) (c : Cursor) : Cursor :=
  c.skip (c.rest.takeWhile p).length

-- Moves forward to where `rest` is left.
def moveTo (c : Cursor) (rest : List Char) : Cursor :=
  c.skip (c.rest.length - rest.length)

theorem length_skipWhile_le (p : Char → Bool) (c : Cursor) :
    (c.skipWhile p).rest.length ≤ c.rest.length := by
  simp [skipWhile]

theorem length_moveTo_lt {c : Cursor} {rest : List Char} (h : rest.length < c.rest.length) :
    (c.moveTo rest).rest.length < c.rest.length := by
  simp [moveTo]; omega

end Cursor
end Yaml
end Gamebook
