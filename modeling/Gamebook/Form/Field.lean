import Gamebook.Form.Issue
import Gamebook.Json.Basic
import Gamebook.Number.Numeral
import Gamebook.Time.Reader

namespace Gamebook
namespace Form

open Checked

-- Powers are those of the core library, whatever else is imported.
attribute [local instance(2000)] instPowNat

-- How the members of a record are read from data that comes from outside.

def text : Json → Checked String
  | .str s => good s
  | _      => fail .notText

-- One of the words of a vocabulary, spelled exactly.
def word (ofName? : String → Option α) : Json → Checked α
  | .str s => orFail .notWord (ofName? s)
  | _      => fail .notWord

def nullable (read : Json → Checked α) : Json → Checked (Option α)
  | .null => good none
  | j     => some <$> read j

-- Zeros in front of a number are dropped together with underscores between them. The last of
-- these characters stays where no digit follows.
def dropZeros? : List Char → Option (List Char)
  | '0' :: cs =>
    let isFiller (c : Char) : Bool := c = '0' || c = '_'
    let last := (cs.takeWhile isFiller).getLastD '0'
    match cs.dropWhile isFiller with
    | []      => some [last]
    | c :: ds => if c.isDigit then some (c :: ds) else if c = '.' then some (last :: c :: ds) else none
  | c :: cs => if c.isDigit || c = '-' then some (c :: cs) else none
  | []      => none

-- Places that are all zero are dropped together with their point.
def dropPlaces (cs : List Char) : List Char :=
  match cs.dropWhile (· ≠ '.') with
  | _ :: d :: ds => if (d :: ds).all (· = '0') then cs.takeWhile (· ≠ '.') else cs
  | _            => cs

-- The text of a number without its underscores. They may not be at its ends or next to each
-- other.
def withoutUnderscores? (cs : List Char) : Option (List Char) :=
  if cs.head? = some '_' || cs.getLast? = some '_' || doubled cs then none
  else some (cs.filter (· ≠ '_'))
where
  doubled : List Char → Bool
    | '_' :: '_' :: _ => true
    | _ :: cs         => doubled cs
    | []              => false

-- A sign, digits without needless zeros and nothing else.
def plainInt (cs : List Char) : Checked Int :=
  let (n, ds) := match cs with
    | '-' :: ds => (true, ds)
    | ds        => (false, ds)
  let digits := ds.takeWhile (·.isDigit)
  if digits.isEmpty || (digits.head? = some '0' && digits.length ≠ 1) then fail .intText
  else if Numeral.digitLimit < digits.length + (if n then 1 else 0) then fail .intSize
  else if digits.length ≠ ds.length then fail .intText
  else good (if n then -(Numeral.ofDigits digits) else Numeral.ofDigits digits)

-- A number without fraction in ASCII digits. White space may stand around it, a sign and zeros in
-- front of it, zero places after it and single underscores inside.
def intOfText (s : String) : Checked Int :=
  let cs := Text.stripBy Text.isSpace s.toList
  let cs := match cs with
    | '+' :: ds => if ds.head? = some '-' then [] else ds
    | ds        => ds
  match dropZeros? cs with
  | some ds =>
    let ds := dropPlaces ds
    plainInt ((withoutUnderscores? ds).getD ds)
  | none    => fail .intText

-- Floating point numbers count as whole ones only below this size.
def wholeBound : Nat := 2 ^ (63 : Nat)

def intOfBinary64 (f : Binary64) : Checked Int :=
  if !f.isFinite then fail .notFinite
  else match f.toInt? with
    | some i => if i.natAbs < wholeBound then good i else fail .intSize
    | none   => fail .intFraction

def int : Json → Checked Int
  | .int i   => good i
  | .bool b  => good (if b then 1 else 0)
  | .float f => intOfBinary64 f
  | .str s   => intOfText s
  | _        => fail .notInt

def ofUnbounded (f : Binary64) : Checked Binary64 :=
  if f.isFinite then good f else fail .notFloat

-- A number in decimal notation with ASCII digits. White space may stand around it or underscores
-- inside, but not both.
def floatOfText (s : String) : Checked Binary64 :=
  let cs := s.toList
  orFail .floatText ((Numeral.plain? (Text.stripBy Text.isSpace cs)).or
    ((withoutUnderscores? cs).bind Numeral.plain?))

def float : Json → Checked Binary64
  | .float f => good f
  | .int i   => ofUnbounded (.ofInt i)
  | .bool b  => good (.ofInt (if b then 1 else 0))
  | .str s   => floatOfText s
  | _        => fail .notFloat

def trueWords : List String := ["1", "t", "true", "y", "yes", "on"]

def falseWords : List String := ["0", "f", "false", "n", "no", "off"]

def asciiLower (s : String) : String :=
  String.ofList (s.toList.map Char.toLower)

def flagOfText (s : String) : Checked Bool :=
  let w := asciiLower s
  if trueWords.contains w then good true
  else if falseWords.contains w then good false
  else fail .flagText

def flagOfInt (i : Int) : Checked Bool :=
  if i = 0 then good false
  else if i = 1 then good true
  else if -wholeBound ≤ i ∧ i < wholeBound then fail .flagText
  else fail .notFlag

def flag : Json → Checked Bool
  | .bool b  => good b
  | .str s   => flagOfText s
  | .int i   => flagOfInt i
  | .float f => match intOfBinary64 f with
    | good i => flagOfInt i
    | bad _  => fail .notFlag
  | _        => fail .notFlag

def time : Json → Checked Timestamp
  | .str s   => orFail .notTime (Timestamp.ofText? s)
  | .int i   => orFail .notTime (Timestamp.ofCount? i 0)
  | .float f => orFail .notTime (Timestamp.ofBinary64? f)
  | _        => fail .notTime

def member (members : List (String × Json)) (name : String) (read : Json → Checked α) : Checked α :=
  (match Json.get? members name with
  | some j => read j
  | none   => fail .missing).under (.key name)

-- A member that may be left out.
def memberOr (members : List (String × Json)) (name : String) (default : α)
    (read : Json → Checked α) : Checked α :=
  match Json.get? members name with
  | some j => (read j).under (.key name)
  | none   => good default

-- All items of an array, each under its position.
def items (read : Json → Checked α) : Json → Checked (List α)
  | .arr xs => go 0 xs
  | _       => fail .notTuple
where
  go (i : Nat) : List Json → Checked (List α)
    | []      => good []
    | x :: xs => List.cons <$> (read x).under (.index i) <*> go (i + 1) xs

-- All members of an object, each under its name, with names that may themselves be unfit.
def entries (readKey : String → Checked κ) (read : Json → Checked α) : Json → Checked (List (κ × α))
  | .obj ms => go ms
  | _       => fail .notMap
where
  go : List (String × Json) → Checked (List (κ × α))
    | []           => good []
    | (k, j) :: ms =>
      (fun k a es => (k, a) :: es) <$> ((readKey k).under (.key "[key]")).under (.key k) <*>
        (read j).under (.key k) <*> go ms

end Form
end Gamebook
