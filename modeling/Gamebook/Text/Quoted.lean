import Gamebook.Text.Printable

namespace Gamebook
namespace Text

def hexDigit (n : Nat) : Char :=
  Char.ofNat (if n < 10 then 0x30 + n else 0x57 + n)

-- The value of a hexadecimal digit in either case.
def hexValue? (c : Char) : Option Nat :=
  let n := c.toNat
  if c.isDigit then some (n - 0x30)
  else if 'a' ≤ c ∧ c ≤ 'f' then some (n - 0x57)
  else if 'A' ≤ c ∧ c ≤ 'F' then some (n - 0x37)
  else none

-- The lowest `width` hexadecimal digits of a number, leading zeros kept.
def hexDigits : Nat → Nat → List Char
  | 0,         _ => []
  | width + 1, n => hexDigits width (n / 16) ++ [hexDigit (n % 16)]

-- Apostrophe, quotation mark and backslash by code, as they open and close literals themselves.
def apostrophe : Char := Char.ofNat 0x27
def quotation  : Char := Char.ofNat 0x22
def backslash  : Char := Char.ofNat 0x5c

namespace Quoted

-- Names are quoted by apostrophes unless that would escape one which quotation marks would not.
def mark (cs : List Char) : Char :=
  if cs.contains apostrophe && !cs.contains quotation then quotation else apostrophe

def escape (q c : Char) : List Char :=
  let n := c.toNat
  if c = q || c = backslash then [backslash, c]
  else if c = '\t' then [backslash, 't']
  else if c = '\n' then [backslash, 'n']
  else if c = '\r' then [backslash, 'r']
  else if isPrintable c then [c]
  else if n < 0x100 then backslash :: 'x' :: hexDigits 2 n
  else if n < 0x10000 then backslash :: 'u' :: hexDigits 4 n
  else backslash :: 'U' :: hexDigits 8 n

def encode (cs : List Char) : List Char :=
  let q := mark cs
  q :: cs.flatMap (escape q) ++ [q]

end Quoted

-- A text between quotes, on one line and in printable characters only.
def quoted (s : String) : String :=
  String.ofList (Quoted.encode s.toList)

-- Bytes between quotes: those that are printable ASCII as they are, all others by number.
def quotedBytes (bytes : List UInt8) : String :=
  let cs := bytes.map fun b => Char.ofNat b.toNat
  let q := Quoted.mark cs
  String.ofList ('b' :: q :: cs.flatMap (escapeByte q) ++ [q])
where
  escapeByte (q c : Char) : List Char :=
    if c.toNat < 0x7f then Quoted.escape q c else backslash :: 'x' :: hexDigits 2 c.toNat

end Text
end Gamebook
