import Gamebook.Number.Binary64
import Gamebook.Text.Blank
import Gamebook.Text.Digit

namespace Gamebook
namespace Numeral

-- Powers are those of the core library, whatever else is imported.
attribute [local instance(2000)] instPowNat

-- Digits of every script become ASCII digits.
def latin (c : Char) : Char :=
  if c.toNat < 128 then c
  else match Text.digitValue? c with
    | some d => Char.ofNat (0x30 + d)
    | none   => c

-- The information separators are not cut off around numbers.
def bare (s : String) : List Char :=
  (Text.stripBy Text.isSpace s.toList).map latin

-- Underscores are dropped where they stand between two digits and are an error elsewhere.
def dropUnderscores? (cs : List Char) : Option (List Char) :=
  go ' ' cs
where
  go (last : Char) : List Char → Option (List Char)
    | []      => if last = '_' then none else some []
    | c :: cs =>
      if c = '_' then if last.isDigit then go c cs else none
      else if last = '_' && !c.isDigit then none
      else (go c cs).map (c :: ·)

-- A sign, if there is one, and the rest.
def splitSign : List Char → Bool × List Char
  | '-' :: cs => (true, cs)
  | '+' :: cs => (false, cs)
  | cs        => (false, cs)

def ofDigits (cs : List Char) : Nat :=
  Nat.ofDigitChars 10 cs 0

-- The digits that a number starts with, and the rest.
def splitDigits (cs : List Char) : List Char × List Char :=
  (cs.takeWhile (·.isDigit), cs.dropWhile (·.isDigit))

-- The digits that a whole number may have in decimal notation.
def digitLimit : Nat := 4300

-- A whole number: blanks around it, a sign, and digits of any script with underscores between
-- them.
def int? (s : String) : Option Int := do
  let (n, cs) := splitSign (← dropUnderscores? (bare s))
  if cs.isEmpty || !cs.all (·.isDigit) || digitLimit < cs.length then none
  else some (if n then -(ofDigits cs) else ofDigits cs)

-- The value of a digit or letter as a digit of some base.
def placeValue? (base : Nat) (c : Char) : Option Nat :=
  let n := c.toLower.toNat
  let v := if c.isDigit then n - 0x30 else if 'a' ≤ c.toLower && c.toLower ≤ 'z' then n - 0x57 else base
  if v < base then some v else none

-- A whole number in another base than ten. The letter that marks the base may stand in front.
def intIn? (base : Nat) (mark : Char) (s : String) : Option Int := do
  let (n, cs) := splitSign (← dropUnderscores? (bare s))
  let cs := match cs with
    | '0' :: c :: rest => if c.toLower = mark then rest else cs
    | _                => cs
  if cs.isEmpty then none
  else
    let v := (← cs.mapM (placeValue? base)).foldl (fun v d => v * base + d) 0
    some (if n then -v else v)

-- The number next to ± `0.d₁d₂… · 10 ^ p`. Beyond the given powers all numbers are infinite or
-- zero.
def ofPlaces (negative : Bool) (ds : List Char) (p : Int) : Binary64 :=
  let sig := ds.dropWhile (· = '0')
  let p : Int := p - (ds.length - sig.length : Nat)
  if sig.isEmpty then .zero negative
  else if 320 < p then .infinite negative
  else if p < -340 then .zero negative
  else
    let k : Int := p - sig.length
    .ofRatio negative (ofDigits sig * 10 ^ k.toNat) (10 ^ (-k).toNat)

-- An exponent part, and nothing after it.
def exponent? : List Char → Option Int
  | []      => some 0
  | c :: cs =>
    if c = 'e' || c = 'E' then
      let (n, ds) := splitSign cs
      if ds.isEmpty || !ds.all (·.isDigit) then none
      else some (if n then -(ofDigits ds) else ofDigits ds)
    else none

-- Digits, a point and digits, one of the two parts possibly missing, and an exponent part.
def unsigned? (negative : Bool) (cs : List Char) : Option Binary64 :=
  let (whole, rest) := splitDigits cs
  let (places, rest) := match rest with
    | '.' :: rest => splitDigits rest
    | rest        => ([], rest)
  if whole.isEmpty && places.isEmpty then none
  else (exponent? rest).map fun e => ofPlaces negative (whole ++ places) (whole.length + e)

-- A number in decimal notation with ASCII digits, or the word for infinity or for no number in
-- any case. Nothing else may stand in the text.
def plain? (cs : List Char) : Option Binary64 :=
  let (n, cs) := splitSign cs
  let word := cs.map (·.toLower)
  if word = ['n', 'a', 'n'] then some .nan
  else if word = ['i', 'n', 'f'] || word = ['i', 'n', 'f', 'i', 'n', 'i', 't', 'y'] then
    some (.infinite n)
  else unsigned? n cs

-- A number as before, with digits of any script, blanks around it and underscores between
-- digits.
def binary64? (s : String) : Option Binary64 :=
  (dropUnderscores? (bare s)).bind plain?

end Numeral
end Gamebook
