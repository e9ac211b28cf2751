namespace Gamebook

-- Floating point numbers of 64 bits as exact data: a finite one is ± `mantissa` · 2 ^ `exponent`.
inductive Binary64
  | nan
  | infinite (negative : Bool)
  | finite (negative : Bool) (mantissa : Nat) (exponent : Int)
deriving DecidableEq, Repr, Inhabited

namespace Binary64

-- Powers are those of the core library, whatever else is imported.
attribute [local instance(2000)] instPowNat

def leastExponent : Int := -1074

def greatestExponent : Int := 971

-- Every number has one form: the mantissa has 53 bits unless the exponent is the least one.
def Canonical : Binary64 → Prop
  | finite _ m e =>
    m < 2 ^ (53 : Nat) ∧ leastExponent ≤ e ∧ e ≤ greatestExponent ∧ (2 ^ (52 : Nat) ≤ m ∨ e = leastExponent)
  | _ => True

def zero (negative : Bool) : Binary64 :=
  .finite negative 0 leastExponent

-- The fraction `num / den`, divided by `2 ^ e`.
def scaled (num den : Nat) (e : Int) : Nat × Nat :=
  (num * 2 ^ (-e).toNat, den * 2 ^ e.toNat)

-- The integer next to `num / den`, the even one of two that are equally near.
def nearestEven (num den : Nat) : Nat :=
  let q := num / den
  let r := num % den
  if 2 * r < den then q else if den < 2 * r then q + 1 else q + q % 2

-- The exponent of the last place of a number near `num / den`.
def placeExponent (num den : Nat) : Int :=
  let k : Int := num.log2 - den.log2
  let s := scaled num den k
  max (if s.2 ≤ s.1 then k - 52 else k - 53) leastExponent

-- The number next to ± `num / den`: ties go to the even mantissa, and what is too large becomes
-- infinite.
def ofRatio (negative : Bool) (num den : Nat) : Binary64 :=
  if num = 0 then zero negative
  else
    let e := placeExponent num den
    let s := scaled num den e
    let m := nearestEven s.1 s.2
    if m = 2 ^ (53 : Nat) then pack (2 ^ (52 : Nat)) (e + 1) else pack m e
where
  pack (m : Nat) (e : Int) : Binary64 :=
    if greatestExponent < e then .infinite negative else .finite negative m e

def ofInt (i : Int) : Binary64 :=
  ofRatio (decide (i < 0)) i.natAbs 1

def isFinite : Binary64 → Bool
  | finite .. => true
  | _         => false

-- Is the number less than zero? A negative zero is not.
def isNegative : Binary64 → Bool
  | nan          => false
  | infinite n   => n
  | finite n m _ => n && m ≠ 0

def neg : Binary64 → Binary64
  | nan          => nan
  | infinite n   => infinite !n
  | finite n m e => finite (!n) m e

-- The whole number that remains when the digits after the point are cut off.
def truncate? : Binary64 → Option Int
  | finite n m e =>
    let s := scaled m 1 (-e)
    let q := s.1 / s.2
    some (if n then -q else q)
  | _ => none

-- The whole number that this number is, if it is one.
def toInt? : Binary64 → Option Int
  | finite n m e =>
    let s := scaled m 1 (-e)
    if s.1 % s.2 = 0 then some (if n then -(s.1 / s.2 : Nat) else (s.1 / s.2 : Nat)) else none
  | _ => none

def mul : Binary64 → Binary64 → Binary64
  | finite n m e, finite n' m' e' =>
    let s := scaled (m * m') 1 (-(e + e'))
    ofRatio (n != n') s.1 s.2
  | nan, _ | _, nan => nan
  | infinite n, infinite n' => infinite (n != n')
  | infinite n, finite n' m _ | finite n' m _, infinite n =>
    if m = 0 then nan else infinite (n != n')

def add : Binary64 → Binary64 → Binary64
  | finite n m e, finite n' m' e' =>
    let least := min e e'
    let a := signed n (m * 2 ^ (e - least).toNat)
    let b := signed n' (m' * 2 ^ (e' - least).toNat)
    let s := scaled (a + b).natAbs 1 (-least)
    ofRatio (if a + b = 0 then n && n' else decide (a + b < 0)) s.1 s.2
  | nan, _ | _, nan => nan
  | infinite n, infinite n' => if n = n' then infinite n else nan
  | infinite n, finite .. | finite .., infinite n => infinite n
where
  signed (n : Bool) (m : Nat) : Int :=
    if n then -m else m

-- Numeric equality: zeros of both signs are equal and nothing equals `nan`.
def same : Binary64 → Binary64 → Bool
  | finite n m e, finite n' m' e' => m == m' && e == e' && (n == n' || m == 0)
  | infinite n, infinite n'       => n == n'
  | _, _                          => false

end Binary64
end Gamebook
