import Gamebook.Text.Quoted
import Gamebook.Yaml.Implicit

namespace Gamebook
namespace Yaml

inductive Style
  | plain
  | single
  | double
deriving DecidableEq, Repr

namespace Style

-- Line breaks as a writer sees them. A carriage return is none of them, but special.
def isLineBreak (c : Char) : Bool :=
  c = '\n' || c = '\x85' || c = '\u2028' || c = '\u2029'

def isGap (c : Char) : Bool :=
  c = ' ' || c = '\t' || c = '\r' || c.toNat = 0 || isLineBreak c

def isGapOrEnd (c : Option Char) : Bool :=
  c.all isGap

-- Characters that are written only as escapes.
def isSpecial (c : Char) : Bool :=
  let n := c.toNat
  !(c = '\n' || (0x20 ≤ n && n ≤ 0x7e) || n = 0x85 || (0xa0 ≤ n && n ≤ 0xd7ff) ||
    (0xe000 ≤ n && n ≤ 0xfffd && n ≠ 0xfeff) || (0x10000 ≤ n && n < 0x10ffff))

-- Does a sign of structure stand at the start of a text?
def startsWithSign (cs : List Char) : Bool :=
  match cs with
  | []      => false
  | c :: cs =>
    signs.contains c || ((c = '?' || c = ':' || c = '-') && isGapOrEnd cs.head?)
where
  signs : List Char :=
    "#,[]\x7b\x7d&*!|>%@".toList ++ [Text.apostrophe, Text.quotation, Char.ofNat 0x60]

-- Does a colon before a gap or a number sign after one stand in a text after the character
-- `last`?
def holdsSign (last : Char) : List Char → Bool
  | []      => false
  | c :: cs => (c = ':' && isGapOrEnd cs.head?) || (c = '#' && isGap last) || holdsSign c cs

def startsWithSeparator (cs : List Char) : Bool :=
  ['-', '-', '-'].isPrefixOf cs || ['.', '.', '.'].isPrefixOf cs

-- Does a character of the class `p` stand just before one of the class `q`?
def adjacent (p q : Char → Bool) : List Char → Bool
  | c :: d :: cs => (p c && q d) || adjacent p q (d :: cs)
  | _            => false

def isSpace (c : Char) : Bool :=
  c = ' '

def isMultiline (cs : List Char) : Bool :=
  cs.any isLineBreak

-- Neither escapes nor spaces at the ends of lines, which only double quotes can keep.
def allowsSingle (cs : List Char) : Bool :=
  !cs.any isSpecial && !adjacent isSpace isLineBreak cs && !adjacent isLineBreak isSpace cs

def atEnds (p : Char → Bool) (cs : List Char) : Bool :=
  cs.head?.any p || cs.getLast?.any p

def allowsPlain (cs : List Char) : Bool :=
  allowsSingle cs && !isMultiline cs && !atEnds isSpace cs && !startsWithSeparator cs &&
    !startsWithSign cs && !cs.head?.any fun c => holdsSign c (cs.drop 1)

-- The longest text that may be a key on the line of its value.
def keyLimit : Nat := 122

def isSimpleKey (cs : List Char) : Bool :=
  !cs.isEmpty && !isMultiline cs && cs.length ≤ keyLimit

-- The plainest style that keeps a text as it is.
def choose (cs : List Char) : Style :=
  if allowsPlain cs && Implicit.isText cs then plain
  else if allowsSingle cs then single
  else double

end Style
end Yaml
end Gamebook
