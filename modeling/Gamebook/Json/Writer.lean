import Gamebook.Json.Basic
import Gamebook.Number.Numeral
import Gamebook.Number.Shortest
import Gamebook.Text.Quoted

namespace Gamebook
namespace Json

-- Powers are those of the core library, whatever else is imported.
attribute [local instance(2000)] instPowNat

-- Four hexadecimal digits for each of the one or two 16-bit units of a character.
def unicodeEscape (c : Char) : List Char :=
  let n := c.toNat
  if n < 0x10000 then unit n
  else unit (0xd800 + (n - 0x10000) / 0x400) ++ unit (0xdc00 + (n - 0x10000) % 0x400)
where
  unit (n : Nat) : List Char := Text.backslash :: 'u' :: Text.hexDigits 4 n

-- Only printable ASCII is written as it is.
def escape (c : Char) : List Char :=
  if c = Text.quotation || c = Text.backslash then [Text.backslash, c]
  else if c = '\n' then [Text.backslash, 'n']
  else if c = '\r' then [Text.backslash, 'r']
  else if c = '\t' then [Text.backslash, 't']
  else if c = '\x08' then [Text.backslash, 'b']
  else if c = '\x0c' then [Text.backslash, 'f']
  else if 0x20 ≤ c.toNat && c.toNat ≤ 0x7e then [c]
  else unicodeEscape c

def writeString (s : String) : List Char :=
  Text.quotation :: s.toList.flatMap escape ++ [Text.quotation]

def writeInt (i : Int) : List Char :=
  if i < 0 then '-' :: Nat.toDigits 10 i.natAbs else Nat.toDigits 10 i.natAbs

def writeFloat : Binary64 → List Char
  | .nan            => "NaN".toList
  | .infinite false => "Infinity".toList
  | .infinite true  => "-Infinity".toList
  | f               => f.text.toList

def writeBool (b : Bool) : List Char :=
  if b then "true".toList else "false".toList

def newline (depth : Nat) : List Char :=
  '\n' :: List.replicate (2 * depth) ' '

mutual
def writeIndented (depth : Nat) : Json → List Char
  | null              => "null".toList
  | bool b            => writeBool b
  | int i             => writeInt i
  | float f           => writeFloat f
  | str s             => writeString s
  | arr []            => ['[', ']']
  | arr (x :: xs)     =>
    '[' :: newline (depth + 1) ++ writeIndented (depth + 1) x ++ writeItems (depth + 1) xs ++
      newline depth ++ [']']
  | obj []            => ['\x7b', '\x7d']
  | obj ((k, x) :: ms) =>
    '\x7b' :: newline (depth + 1) ++ writeString k ++ ':' :: ' ' :: writeIndented (depth + 1) x ++
      writeMembers (depth + 1) ms ++ newline depth ++ ['\x7d']

def writeItems (depth : Nat) : List Json → List Char
  | []      => []
  | x :: xs => ',' :: newline depth ++ writeIndented depth x ++ writeItems depth xs

def writeMembers (depth : Nat) : List (String × Json) → List Char
  | []           => []
  | (k, x) :: ms =>
    ',' :: newline depth ++ writeString k ++ ':' :: ' ' :: writeIndented depth x ++
      writeMembers depth ms
end

-- Whole numbers with too many digits are not written.
def isOversize : Json → Bool
  | int i => 10 ^ Numeral.digitLimit ≤ i.natAbs
  | _     => false

def isUnbounded : Json → Bool
  | float f => !f.isFinite
  | _       => false

-- Can a value be written?
def IsWritable (j : Json) : Prop :=
  j.anyScalar isOversize = false

instance (j : Json) : Decidable j.IsWritable :=
  inferInstanceAs (Decidable (_ = _))

-- Can a value be written in such a way that others can read it?
def IsPortable (j : Json) : Prop :=
  j.IsWritable ∧ j.anyScalar isUnbounded = false

instance (j : Json) : Decidable j.IsPortable :=
  inferInstanceAs (Decidable (_ ∧ _))

-- The text of a value over several lines, each level indented by two spaces.
def render (j : Json) : String :=
  String.ofList (writeIndented 0 j)

mutual
def writeCompact : Json → List Char
  | null    => "null".toList
  | bool b  => writeBool b
  | int i   => writeInt i
  | float f => writeFloat f
  | str s   => writeString s
  | arr xs  => '[' :: writeCompactItems xs ++ [']']
  | obj ms  => '\x7b' :: writeCompactMembers ms ++ ['\x7d']

def writeCompactItems : List Json → List Char
  | []           => []
  | [x]          => writeCompact x
  | x :: y :: xs => writeCompact x ++ ',' :: writeCompactItems (y :: xs)

def writeCompactMembers : List (String × Json) → List Char
  | []                => []
  | [(k, x)]          => writeString k ++ ':' :: writeCompact x
  | (k, x) :: m :: ms => writeString k ++ ':' :: writeCompact x ++ ',' :: writeCompactMembers (m :: ms)
end

-- The text of a value on one line and without spaces.
def compact (j : Json) : String :=
  String.ofList (writeCompact j)

end Json
end Gamebook
