import Gamebook.Ordered

namespace Gamebook
namespace Punycode

-- Characters beyond ASCII are told by how far it is from one to the next, in digits to the base 36
-- whose number adapts to the distances so far.

def digit (n : Nat) : Char :=
  Char.ofNat (if n < 26 then 0x61 + n else 0x16 + n)

-- From which value on a digit is not the last one.
def threshold (bias k : Nat) : Nat :=
  if k ≤ bias then 1 else min 26 (k - bias)

theorem threshold_bounds (bias k : Nat) : 1 ≤ threshold bias k ∧ threshold bias k ≤ 26 := by
  unfold threshold
  split <;> omega

def distance (bias k q : Nat) : List Char :=
  let t := threshold bias k
  if q < t then [digit q]
  else digit (t + (q - t) % (36 - t)) :: distance bias (k + 36) ((q - t) / (36 - t))
termination_by q
decreasing_by
  have h := threshold_bounds bias k
  exact Nat.lt_of_le_of_lt (Nat.div_le_self ..) (by omega)

def settle (delta k : Nat) : Nat :=
  if 455 < delta then settle (delta / 35) (k + 36) else k + 36 * delta / (delta + 38)
termination_by delta
decreasing_by omega

def adapt (delta points : Nat) (first : Bool) : Nat :=
  let delta := if first then delta / 700 else delta / 2
  settle (delta + delta / points) 0

-- What has been written, the distance to the next character, the bias, and how many characters
-- have been told.
structure State where
  out   : List Char
  delta : Nat
  bias  : Nat
  told  : Nat

def scan (basic m : Nat) (s : State) (c : Char) : State :=
  if c.toNat < m then { s with delta := s.delta + 1 }
  else if c.toNat = m then {
    out   := s.out ++ distance s.bias 36 s.delta
    delta := 0
    bias  := adapt s.delta (s.told + 1) (s.told = basic)
    told  := s.told + 1
  }
  else s

def tell (cs : List Char) (basic : Nat) : Nat → List Nat → State → State
  | _, [],      s => s
  | n, m :: ms, s =>
    let s := cs.foldl (scan basic m) { s with delta := s.delta + (m - n) * (s.told + 1) }
    tell cs basic (m + 1) ms { s with delta := s.delta + 1 }

def isBasic (c : Char) : Bool :=
  c.toNat < 128

-- The text in ASCII characters.
def encode (cs : List Char) : List Char :=
  let basic := cs.filter isBasic
  let others := ((cs.filter (!isBasic ·)).map Char.toNat).mergeSort.eraseDups
  let start := if basic.isEmpty then [] else basic ++ ['-']
  (tell cs basic.length 128 others ⟨start, 0, 72, basic.length⟩).out

end Punycode
end Gamebook
