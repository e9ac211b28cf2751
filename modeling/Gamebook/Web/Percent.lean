import Gamebook.Text.Quoted

namespace Gamebook
namespace Percent

-- The bytes of a character, each as a percent sign and two digits.
def encodeChar (c : Char) : List Char :=
  (String.utf8EncodeChar c).flatMap fun b => '%' :: (Text.hexDigits 2 b.toNat).map Char.toUpper

-- All characters but the safe ones are encoded.
def encode (safe : Char → Bool) (cs : List Char) : List Char :=
  cs.flatMap fun c => if safe c then [c] else encodeChar c

-- The bytes that a text stands for. A percent sign without two digits stands for itself.
def bytes : List Char → List UInt8
  | '%' :: a :: b :: cs =>
    match Text.hexValue? a, Text.hexValue? b with
    | some x, some y => .ofNat (x * 16 + y) :: bytes cs
    | _,      _      => String.utf8EncodeChar '%' ++ bytes (a :: b :: cs)
  | c :: cs => String.utf8EncodeChar c ++ bytes cs
  | []      => []
termination_by cs => cs.length

-- The character that the bytes begin with, and how many of them belong to it.
def firstChar? (bs : List UInt8) : Option (Char × Nat) :=
  [1, 2, 3, 4].findSome? fun n =>
    match (String.fromUTF8? ⟨(bs.take n).toArray⟩).map String.toList with
    | some [c] => some (c, n)
    | _        => none

-- Bytes that are no UTF-8 become replacement characters.
def text : List UInt8 → List Char
  | []      => []
  | b :: bs =>
    match firstChar? (b :: bs) with
    | some (c, n) => c :: text (bs.drop (n - 1))
    | none        => '\ufffd' :: text bs
termination_by bs => bs.length
decreasing_by
  · simp only [List.length_drop, List.length_cons]; omega
  · simp

def decode (s : String) : String :=
  String.ofList (text (bytes s.toList))

end Percent
end Gamebook
