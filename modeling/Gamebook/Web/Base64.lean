namespace Gamebook
namespace Base64

def digit (n : Nat) : Char :=
  Char.ofNat (
    if n < 26 then 0x41 + n
    else if n < 52 then 0x61 + (n - 26)
    else if n < 62 then 0x30 + (n - 52)
    else if n = 62 then 0x2b
    else 0x2f)

-- The first `k` of the four digits of 24 bits, and signs in place of the others.
def quartet (k n : Nat) : List Char :=
  [digit (n / 262144), digit (n / 4096 % 64), digit (n / 64 % 64), digit (n % 64)].take k ++
    List.replicate (4 - k) '='

-- Three bytes at a time are written as four digits.
def encode : List UInt8 → List Char
  | []                => []
  | [a]               => quartet 2 (a.toNat * 65536)
  | [a, b]            => quartet 3 (a.toNat * 65536 + b.toNat * 256)
  | a :: b :: c :: bs => quartet 4 (a.toNat * 65536 + b.toNat * 256 + c.toNat) ++ encode bs

end Base64
end Gamebook
