namespace Gamebook

-- Elements and texts of the XML data format.
inductive Xml
  | text (s : String)
  | element (name : String) (attributes : List (String × String)) (content : List Xml)
deriving Inhabited

namespace Xml

-- The characters that may stand in a document. No reference stands for another one either.
def isChar (c : Char) : Bool :=
  let n := c.toNat
  n == 0x09 || n == 0x0a || n == 0x0d || (0x20 ≤ n && n ≤ 0xfffd) || 0x10000 ≤ n

def isBlank (c : Char) : Bool :=
  c = ' ' || c = '\t' || c = '\n' || c = '\r'

-- What names start with, as first and last characters of ranges.
def nameStarts : List (Nat × Nat) := [
  (0x3a, 0x3a), (0x41, 0x5a), (0x5f, 0x5f), (0x61, 0x7a), (0xc0, 0xd6), (0xd8, 0xf6), (0xf8, 0x2ff),
  (0x370, 0x37d), (0x37f, 0x1fff), (0x200c, 0x200d), (0x2070, 0x218f), (0x2c00, 0x2fef),
  (0x3001, 0xd7ff), (0xf900, 0xfdcf), (0xfdf0, 0xfffd), (0x10000, 0xeffff)
]

-- What else there is in names.
def nameParts : List (Nat × Nat) :=
  [(0x2d, 0x2e), (0x30, 0x39), (0xb7, 0xb7), (0x300, 0x36f), (0x203f, 0x2040)]

def isAmong (ranges : List (Nat × Nat)) (c : Char) : Bool :=
  ranges.any fun r => r.1 ≤ c.toNat && c.toNat ≤ r.2

def isNameStart (c : Char) : Bool :=
  isAmong nameStarts c

def isNameChar (c : Char) : Bool :=
  isNameStart c || isAmong nameParts c

def isName : List Char → Bool
  | []      => false
  | c :: cs => isNameStart c && cs.all isNameChar

end Xml
end Gamebook
