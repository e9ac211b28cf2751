import Gamebook.Number.Numeral
import Gamebook.Time.Timestamp

namespace Gamebook
namespace Timestamp

-- Powers are those of the core library, whatever else is imported.
attribute [local instance(2000)] instPowNat

-- Readers of fixed forms: what is read and what is left.
abbrev Reader (α : Type) : Type :=
  List Char → Option (α × List Char)

namespace Reader

def digits (n : Nat) : Reader Nat := fun cs =>
  let ds := cs.take n
  if ds.length = n && ds.all (·.isDigit) then some (Numeral.ofDigits ds, cs.drop n) else none

def char (p : Char → Bool) : Reader Char
  | c :: cs => if p c then some (c, cs) else none
  | []      => none

def date : Reader Date := fun cs => do
  let (y, cs) ← digits 4 cs
  let (_, cs) ← char (· = '-') cs
  let (m, cs) ← digits 2 cs
  let (_, cs) ← char (· = '-') cs
  let (d, cs) ← digits 2 cs
  return (← Date.of? y m d, cs)

-- The microseconds that the digits after a point stand for. From the seventh on they are
-- dropped.
def microseconds (ds : List Char) : Nat :=
  Numeral.ofDigits (ds.take 6 ++ List.replicate (6 - ds.length) '0')

-- A point or comma and at least one digit, or nothing.
def fraction : Reader Nat
  | []      => some (0, [])
  | c :: cs =>
    if c = '.' || c = ',' then
      let ds := cs.takeWhile (·.isDigit)
      if ds.isEmpty then none else some (microseconds ds, cs.dropWhile (·.isDigit))
    else some (0, c :: cs)

-- Hours and minutes, and possibly seconds and a fraction of them.
def time : Reader TimeOfDay := fun cs => do
  let (h, cs) ← digits 2 cs
  let (_, cs) ← char (· = ':') cs
  let (m, cs) ← digits 2 cs
  match cs with
  | ':' :: cs =>
    let (s, cs) ← digits 2 cs
    let (us, cs) ← fraction cs
    return (← TimeOfDay.of? h m s us, cs)
  | cs => return (← TimeOfDay.of? h m 0 0, cs)

-- The letter `Z`, or hours and minutes with a sign and possibly a colon, or nothing.
def offset : Reader (Option Offset)
  | []      => some (none, [])
  | c :: cs =>
    if c = 'Z' || c = 'z' then some (some .utc, cs)
    else if c = '+' || c = '-' || c = '\u2212' then do
      let (h, cs) ← digits 2 cs
      let (m, cs) ← digits 2 (match cs with | ':' :: cs => cs | cs => cs)
      if 60 ≤ m then none
      else
        let n : Int := (h * 60 + m : Nat)
        return (some (← Offset.of? (if c = '+' then n else -n)), cs)
    else none

end Reader

-- ISO 8601. A day alone means its first moment.
def ofIso? (cs : List Char) : Option Timestamp := do
  let (d, cs) ← Reader.date cs
  if cs.isEmpty then return ⟨d, .midnight, none⟩
  else
    let (_, cs) ← Reader.char (fun c => c = 'T' || c = 't' || c = ' ' || c = '_') cs
    let (t, cs) ← Reader.time cs
    let (o, cs) ← Reader.offset cs
    if cs.isEmpty then return ⟨d, t, o⟩ else none

-- Numbers beyond this size count milliseconds, all others seconds.
def millisecondBound : Nat := 20000000000

-- The moment that a whole number and some microseconds stand for.
def ofCount? (n : Int) (us : Nat) : Option Timestamp :=
  if n.natAbs ≤ millisecondBound then ofUnix? n us
  else ofUnix? (n / 1000) ((n % 1000).toNat * 1000 + us)

-- The integer next to `num / den`, the larger one of two that are equally near.
def nearestUp (num den : Nat) : Nat :=
  (2 * num + den) / (2 * den)

-- The size of the fraction counts as microseconds after the whole number below.
def ofBinary64? : Binary64 → Option Timestamp
  | .finite n m e =>
    let s := Binary64.scaled m 1 (-e)
    let us := nearestUp (s.1 % s.2 * 1000000) s.2
    let whole := s.1 / s.2
    ofCount? (if n then -(if s.1 % s.2 = 0 then whole else whole + 1 : Nat) else whole) us
  | _ => none

-- The seconds, rounded down, and microseconds of ± `num / den` seconds.
def ofSeconds? (negative : Bool) (num den : Nat) : Option Timestamp :=
  if negative then
    let whole := (num + den - 1) / den
    ofUnix? (-whole) (nearestUp ((whole * den - num) * 1000000) den)
  else ofUnix? (num / den : Nat) (nearestUp (num % den * 1000000) den)

-- Digits, possibly with a sign and a point.
def ofDecimal? (cs : List Char) : Option Timestamp :=
  let (n, cs) := Numeral.splitSign cs
  let (whole, rest) := Numeral.splitDigits cs
  let w := Numeral.ofDigits whole
  if whole.isEmpty then none
  else match rest with
    | [] => ofCount? (if n then -w else w) 0
    | '.' :: ds =>
      if !ds.all (·.isDigit) then none
      else
        let num := Numeral.ofDigits (whole ++ ds)
        let den := 10 ^ ds.length
        ofSeconds? n num (if millisecondBound * den < num then den * 1000 else den)
    | _ => none

def ofText? (s : String) : Option Timestamp :=
  (ofIso? s.toList).or (ofDecimal? s.toList)

end Timestamp
end Gamebook
