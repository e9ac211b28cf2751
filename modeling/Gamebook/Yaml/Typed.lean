import Gamebook.Datum
import Gamebook.Number.Numeral
import Gamebook.Text.Lower
import Gamebook.Time.Reader
import Gamebook.Yaml.Cursor
import Gamebook.Yaml.Implicit
import Gamebook.Yaml.Node

namespace Gamebook
namespace Yaml
namespace Typed

-- Powers are those of the core library, whatever else is imported.
attribute [local instance(2000)] instPowNat

-- The scalars that tagged text stands for.

def unfit (why : Unfit) : Option α → Except Fault α
  | some a => .ok a
  | none   => .error (.unfit why)

-- The characters without underscores, and without the sign in front of them.
def signed (cs : List Char) : Except Fault (Bool × List Char) :=
  match cs.filter (· ≠ '_') with
  | [] => .error (.unfit .noDigits)
  | cs => .ok (Numeral.splitSign cs)

-- The parts between colons.
def parts (cs : List Char) : List String :=
  (cs.splitOn ':').map String.ofList

-- A number in base sixty.
def sixties (ns : List Int) : Int :=
  ns.foldl (fun v n => v * 60 + n) 0

def int (s : String) : Except Fault Int := do
  let (n, cs) ← signed s.toList
  let v ← match cs with
    | []        => throw (.unfit .noDigits)
    | ['0']     => pure 0
    | '0' :: cs =>
      if cs.head? = some 'b' then unfit .number (Numeral.intIn? 2 'b' (String.ofList (cs.drop 1)))
      else if cs.head? = some 'x' then
        unfit .number (Numeral.intIn? 16 'x' (String.ofList (cs.drop 1)))
      else unfit .number (Numeral.intIn? 8 'o' (String.ofList ('0' :: cs)))
    | cs =>
      if cs.contains ':' then do
        pure (sixties (← (parts cs).mapM fun p => unfit .number (Numeral.int? p)))
      else unfit .number (Numeral.int? (String.ofList cs))
  return if n then -v else v

-- A number in base sixty, added up from its last place, each step rounded. No place may be worth
-- more than a number can be.
def floatSixties (fs : List Binary64) : Option Binary64 :=
  if (Binary64.ofInt (60 ^ (fs.length - 1))).isFinite then
    some (fs.reverse.zipIdx.foldl (fun v (f, i) => v.add (f.mul (.ofInt (60 ^ i)))) (.zero false))
  else none

def float (s : String) : Except Fault Binary64 := do
  let (n, cs) ← signed (Text.lower s).toList
  let v ←
    if cs = ".inf".toList then pure (.infinite false)
    else if cs = ".nan".toList then pure .nan
    else if cs.contains ':' then do
      unfit .hugeNumber (floatSixties (← (parts cs).mapM fun p => unfit .number (Numeral.binary64? p)))
    else unfit .number (Numeral.binary64? (String.ofList cs))
  return if n then v.neg else v

def bool (s : String) : Except Fault Bool :=
  let t := Text.lower s
  if t = "yes" || t = "true" || t = "on" then .ok true
  else if t = "no" || t = "false" || t = "off" then .ok false
  else .error (.unfit .boolean)

-- The value of a character of base 64.
def sextet? (c : Char) : Option Nat :=
  let n := c.toNat
  if 'A' ≤ c ∧ c ≤ 'Z' then some (n - 0x41)
  else if 'a' ≤ c ∧ c ≤ 'z' then some (n - 0x61 + 26)
  else if c.isDigit then some (n - 0x30 + 52)
  else if c = '+' then some 62
  else if c = '/' then some 63
  else none

-- Bytes in base 64. `quad` holds the sextets of the group that is being read and `pads` counts the
-- padding after them. What is no sextet is skipped, and enough padding ends the text.
def base64 (quad : List Nat) (pads : Nat) : List Char → Option (List UInt8)
  | [] => if quad.isEmpty then some [] else none
  | c :: cs =>
    if c = '=' then
      if 2 ≤ quad.length then
        if 4 ≤ quad.length + pads + 1 then some [] else base64 quad (pads + 1) cs
      else base64 quad pads cs
    else match sextet? c, quad with
      | none,   _         => base64 quad pads cs
      | some s, [_, _, c] => (base64 [] 0 cs).map (byte (c % 4 * 64 + s) :: ·)
      | some s, [a, b]    => (base64 [a, b, s] 0 cs).map (byte (b % 16 * 16 + s / 4) :: ·)
      | some s, [a]       => (base64 [a, s] 0 cs).map (byte (a * 4 + s / 16) :: ·)
      | some s, _         => base64 [s] 0 cs
where
  byte (n : Nat) : UInt8 := UInt8.ofNat n

def binary (s : String) : Except Fault (List UInt8) :=
  if s.toList.all (·.toNat < 128) then
    match base64 [] 0 s.toList with
    | some bs => .ok bs
    | none    => .error .malformed
  else .error .malformed

-- The parts of a timestamp. What a reader does not find, it leaves.
structure Moment where
  hour     : Nat
  minute   : Nat
  second   : Nat
  fraction : List Char
  zone     : Option (Bool × Nat × Nat)

-- One or two digits.
def shortNumber (cs : List Char) : Option (Nat × List Char) :=
  let ds := (cs.takeWhile (·.isDigit)).take 2
  if ds.isEmpty then none else some (Numeral.ofDigits ds, cs.drop ds.length)

-- The end of a timestamp, before which one line feed may stand.
def atEnd (cs : List Char) : Bool :=
  cs.isEmpty || cs = ['\n']

-- The distance from Greenwich at the end of a timestamp: east or west, hours and minutes.
def zone? (cs : List Char) : Option (Option (Bool × Nat × Nat)) :=
  if atEnd cs then some none
  else match cs.dropWhile isWhite with
    | 'Z' :: cs => if atEnd cs then some (some (false, 0, 0)) else none
    | c :: cs   =>
      if c = '+' || c = '-' then do
        let (h, cs) ← shortNumber cs
        let (m, cs) ← match cs with
          | ':' :: cs => Timestamp.Reader.digits 2 cs
          | cs        => some (0, cs)
        if atEnd cs then some (some (c = '-', h, m)) else none
      else none
    | [] => none

def clock? (cs : List Char) : Option Moment := do
  let (hour, cs) ← shortNumber cs
  let (_, cs) ← Timestamp.Reader.char (· = ':') cs
  let (minute, cs) ← Timestamp.Reader.digits 2 cs
  let (_, cs) ← Timestamp.Reader.char (· = ':') cs
  let (second, cs) ← Timestamp.Reader.digits 2 cs
  let (fraction, cs) := match cs with
    | '.' :: cs => Numeral.splitDigits cs
    | cs        => ([], cs)
  return { hour, minute, second, fraction, zone := ← zone? cs }

-- A day, and possibly a time after a letter or blanks.
def timestampParts? (cs : List Char) : Option ((Nat × Nat × Nat) × Option Moment) := do
  let (y, cs) ← Timestamp.Reader.digits 4 cs
  let (_, cs) ← Timestamp.Reader.char (· = '-') cs
  let (m, cs) ← shortNumber cs
  let (_, cs) ← Timestamp.Reader.char (· = '-') cs
  let (d, cs) ← shortNumber cs
  if atEnd cs then return ((y, m, d), none)
  else match cs with
    | c :: cs =>
      if c = 'T' || c = 't' then return ((y, m, d), some (← clock? cs))
      else if isWhite c then return ((y, m, d), some (← clock? (cs.dropWhile isWhite)))
      else none
    | [] => none

def timestamp (s : String) : Except Fault Scalar := do
  let ((y, m, d), moment) ← unfit .timestamp (timestampParts? s.toList)
  let date ← unfit .calendar (Date.of? y m d)
  match moment with
  | none   => return .date date
  | some t =>
    let us := Timestamp.Reader.microseconds t.fraction
    let offset ← match t.zone with
      | none              => pure none
      | some (west, h, m) =>
        let n : Int := (h * 60 + m : Nat)
        (unfit .calendar (Offset.of? (if west then -n else n))).map some
    let time ← unfit .calendar (TimeOfDay.of? t.hour t.minute t.second us)
    return .moment ⟨date, time, offset⟩

-- A way to tell the type of plain text. Only texts are looked at that start with one of some
-- characters, where none is the start of the empty text.
structure Resolver where
  tag     : Tag
  pattern : Pattern
  starts  : List (Option Char)

-- The types that are told of definitions. Of the plain texts of YAML 1.1 that have a meaning of
-- their own, those for null alone keep it.
def resolvers : List Resolver :=
  [⟨.null, Implicit.null, [some '~', some 'n', some 'N', none]⟩]

def Resolver.accepts (r : Resolver) (s : String) : Bool :=
  r.starts.contains s.toList.head? && r.pattern.matchesLine s.toList

-- The type of a scalar. One that is not tagged is typed by its text if it is plain.
def typeOf (tag : Option Tag) (plain : Bool) (s : String) : Option Tag :=
  tag.or (if plain then (resolvers.find? (·.accepts s)).map (·.tag) else none)

-- What a scalar of a type stands for, text being that of which the type is not known.
def ofType (s : String) : Option Tag → Except Fault Scalar
  | none            => .ok (.text s)
  | some .str       => .ok (.text s)
  | some .null      => .ok .null
  | some .bool      => return .bool (← bool s)
  | some .int       => return .int (← int s)
  | some .float     => return .float (← float s)
  | some .binary    => return .bytes (← binary s)
  | some .timestamp => timestamp s
  | some _          => .error .malformed

def read (tag : Option Tag) (plain : Bool) (s : String) : Except Fault Scalar :=
  ofType s (typeOf tag plain s)

end Typed
end Yaml
end Gamebook
