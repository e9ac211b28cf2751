import Gamebook.Number.Binary64

namespace Gamebook

-- The number `digits` · 10 ^ `exponent`.
structure Decimal where
  digits   : Nat
  exponent : Int
deriving DecidableEq, Repr, Inhabited

namespace Binary64

-- Powers are those of the core library, whatever else is imported.
attribute [local instance(2000)] instPowNat

-- The reals that round to `mantissa` · 2 ^ `exponent`, the ends being multiples of a quarter of
-- the last place. Below a power of two the numbers lie twice as close.
structure Basin where
  low       : Nat
  value     : Nat
  high      : Nat
  exponent  : Int
  inclusive : Bool

def basin (m : Nat) (e : Int) : Basin where
  low       := if m = 2 ^ (52 : Nat) ∧ leastExponent < e then 4 * m - 1 else 4 * m - 2
  value     := 4 * m
  high      := 4 * m + 2
  exponent  := e - 2
  inclusive := m % 2 = 0

namespace Basin

-- A multiple of `2 ^ b.exponent` and one of `10 ^ k`, both multiplied until they are whole.
def align (b : Basin) (k : Int) (x c : Nat) : Nat × Nat :=
  (x * 2 ^ b.exponent.toNat * 10 ^ (-k).toNat, c * 10 ^ k.toNat * 2 ^ (-b.exponent).toNat)

def contains (b : Basin) (k : Int) (c : Nat) : Bool :=
  let l := b.align k b.low c
  let h := b.align k b.high c
  if b.inclusive then l.1 ≤ l.2 && h.2 ≤ h.1 else l.1 < l.2 && h.2 < h.1

-- The decimal exponent `p` with `10 ^ (p - 1) ≤ value < 10 ^ p`.
def magnitude (b : Basin) : Int :=
  let num := b.value * 2 ^ b.exponent.toNat
  let den := 2 ^ (-b.exponent).toNat
  if den ≤ num then (Nat.toDigits 10 (num / den)).length
  else
    let z := (Nat.toDigits 10 (den / num)).length - 1
    if den ≤ num * 10 ^ z then 1 - z else -z

-- The nearest of the two multiples of `10 ^ k` beside the value that round to it.
def nearest? (b : Basin) (k : Int) : Option Nat :=
  let s := b.align k b.value 1
  let c := s.1 / s.2
  match b.contains k c, b.contains k (c + 1) with
  | true,  true  => some (nearestEven s.1 s.2)
  | true,  false => some c
  | false, true  => some (c + 1)
  | false, false => none

end Basin

-- The decimal with the fewest digits that is read back as `m · 2 ^ e`, the nearest of these.
def shortest (m : Nat) (e : Int) : Decimal :=
  let b := basin m e
  let p := b.magnitude
  ((List.range' 1 17).findSome? fun (n : Nat) =>
    (b.nearest? (p - n)).map fun c => if c = 10 ^ n then ⟨1, p⟩ else ⟨c, p - n⟩).getD ⟨0, 0⟩

-- The decimal exponents that are written without an exponent part.
structure Layout where
  least : Int
  bound : Int

def layout : Layout := ⟨-4, 16⟩

-- One digit before the point and as many places as the digits fill, or one zero place.
def Layout.write (l : Layout) (d : Decimal) : List Char :=
  let ds := Nat.toDigits 10 d.digits
  let x : Int := d.exponent + ds.length - 1
  if l.least ≤ x ∧ x < l.bound then
    if x < 0 then '0' :: '.' :: List.replicate (-x - 1).toNat '0' ++ ds
    else if ds.length ≤ x + 1 then
      ds ++ List.replicate (x + 1 - ds.length).toNat '0' ++ ['.', '0']
    else ds.take (x + 1).toNat ++ '.' :: ds.drop (x + 1).toNat
  else
    let es := Nat.toDigits 10 x.natAbs
    ds.take 1 ++ (if ds.length = 1 then [] else '.' :: ds.drop 1) ++
      'e' :: (if x < 0 then '-' else '+') :: List.replicate (2 - es.length) '0' ++ es

-- The shortest text that is read back as the same number.
def text : Binary64 → String
  | nan            => "nan"
  | infinite true  => "-inf"
  | infinite false => "inf"
  | finite n m e   =>
    let cs := if m = 0 then ['0', '.', '0'] else layout.write (shortest m e)
    String.ofList (if n then '-' :: cs else cs)

end Binary64
end Gamebook
