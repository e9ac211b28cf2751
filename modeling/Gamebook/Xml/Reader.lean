import Gamebook.Files.Text
import Gamebook.Number.Numeral
import Gamebook.Text.Quoted
import Gamebook.Xml.Basic

namespace Gamebook
namespace Xml

-- The character of a code point, if it may stand in a document.
def charOf? (n : Nat) : Option Char :=
  let c := Char.ofNat n
  if c.toNat = n && isChar c then some c else none

def number? (base : Nat) (ds : List Char) : Option Nat :=
  if ds.isEmpty then none
  else ds.foldlM (fun n d => (Numeral.placeValue? base d).map (n * base + ·)) 0

def entities : List (List Char × Char) := [
  ("amp".toList, '&'),
  ("lt".toList, '<'),
  ("gt".toList, '>'),
  ("quot".toList, Text.quotation),
  ("apos".toList, Text.apostrophe)
]

-- The character that is referred to by number or name.
def reference? : List Char → Option Char
  | '#' :: 'x' :: ds => (number? 16 ds).bind charOf?
  | '#' :: ds        => (number? 10 ds).bind charOf?
  | name             => (entities.find? (·.1 = name)).map Prod.snd

-- Characters with what is referred to in place of the references. `pending` is what has been read
-- of one that has not ended, latest first.
def resolve (pending : Option (List Char)) : List Char → Option (List Char)
  | []      => if pending.isNone then some [] else none
  | c :: cs => match pending with
    | none      => if c = '&' then resolve (some []) cs else (resolve none cs).map (c :: ·)
    | some name =>
      if c = ';' then (reference? name.reverse).bind fun d => (resolve none cs).map (d :: ·)
      else resolve (some (c :: name)) cs

-- Does the end of a section of another kind stand somewhere?
def closesSection : List Char → Bool
  | ']' :: ']' :: '>' :: _ => true
  | _ :: cs                => closesSection cs
  | []                     => false

def textOf? (cs : List Char) : Option String :=
  if closesSection cs then none else (resolve none cs).map String.ofList

-- In the value of an attribute blanks of every kind are spaces, unless they are referred to.
def valueOf? (cs : List Char) : Option String :=
  if cs.contains '<' then none
  else (resolve none (cs.map fun c => if isBlank c then ' ' else c)).map String.ofList

-- A reader's result is what it has read and a rest that is shorter than what it was given.
abbrev Read (α : Type) (cs : List Char) : Type :=
  Option (α × { rest : List Char // rest.length < cs.length })

def skip (cs : List Char) : List Char :=
  cs.dropWhile isBlank

theorem length_dropWhile_le (p : Char → Bool) (cs : List Char) : (cs.dropWhile p).length ≤ cs.length :=
  (List.dropWhile_suffix p).length_le

theorem length_lt_of_dropWhile {p : Char → Bool} {cs rest : List Char} {c : Char} (h : cs.dropWhile p = c :: rest) :
    rest.length < cs.length := by
  have hl := length_dropWhile_le p cs
  rwa [h] at hl

def readName : (cs : List Char) → Read String cs
  | []      => none
  | c :: cs =>
    if isNameStart c then
      some (String.ofList (c :: cs.takeWhile isNameChar),
        ⟨cs.dropWhile isNameChar, Nat.lt_succ_of_le (length_dropWhile_le isNameChar cs)⟩)
    else none

-- A sign, possibly after blanks.
def readSign (sign : Char) (cs : List Char) : Read Unit cs :=
  match h : skip cs with
  | c :: rest => if c = sign then some ((), ⟨rest, length_lt_of_dropWhile h⟩) else none
  | []        => none

-- A value between quotation marks or apostrophes.
def readValue : (cs : List Char) → Read String cs
  | []      => none
  | q :: cs =>
    if q = Text.quotation || q = Text.apostrophe then
      match h : cs.dropWhile (· ≠ q) with
      | _ :: rest => (valueOf? (cs.takeWhile (· ≠ q))).map fun v =>
        (v, ⟨rest, Nat.lt_succ_of_lt (length_lt_of_dropWhile h)⟩)
      | []        => none
    else none

def readAttribute (cs : List Char) : Read (String × String) cs := do
  let (name, ⟨cs₁, h₁⟩) ← readName cs
  let (_, ⟨cs₂, h₂⟩) ← readSign '=' cs₁
  let (value, ⟨cs₃, h₃⟩) ← readValue (skip cs₂)
  return ((name, value),
    ⟨cs₃, Nat.lt_trans (Nat.lt_of_lt_of_le h₃ (length_dropWhile_le isBlank cs₂)) (Nat.lt_trans h₂ h₁)⟩)

-- The attributes of an element, each after a blank. No name comes twice.
def readAttributes (cs : List Char) :
    Option (List (String × String) × { rest : List Char // rest.length ≤ cs.length }) :=
  if cs.head?.any isBlank && (skip cs).head?.any isNameStart then do
    let (a, ⟨cs₁, h₁⟩) ← readAttribute (skip cs)
    have h₂ : cs₁.length < cs.length := Nat.lt_of_lt_of_le h₁ (length_dropWhile_le isBlank cs)
    let (as, ⟨rest, h⟩) ← readAttributes cs₁
    if as.any (·.1 = a.1) then none else return (a :: as, ⟨rest, Nat.le_trans h (Nat.le_of_lt h₂)⟩)
  else some ([], ⟨skip cs, length_dropWhile_le isBlank cs⟩)
termination_by cs.length

-- The parts of a document in their order.
inductive Token
  | text    (s : String)
  | opening (name : String) (attributes : List (String × String))
  | closing (name : String)
  | empty   (name : String) (attributes : List (String × String))
deriving DecidableEq, Repr

-- A tag without its first character.
def readTag : (cs : List Char) → Read Token cs
  | '/' :: cs => do
    let (name, ⟨cs₁, h₁⟩) ← readName cs
    let (_, ⟨rest, h₂⟩) ← readSign '>' cs₁
    return (.closing name, ⟨rest, Nat.lt_succ_of_lt (Nat.lt_trans h₂ h₁)⟩)
  | cs => do
    let (name, ⟨cs₁, h₁⟩) ← readName cs
    let (as, ⟨cs₂, h₂⟩) ← readAttributes cs₁
    have h : cs₂.length < cs.length := Nat.lt_of_le_of_lt h₂ h₁
    match cs₂, h with
    | '>' :: rest, h        => return (.opening name as, ⟨rest, Nat.lt_of_succ_lt h⟩)
    | '/' :: '>' :: rest, h => return (.empty name as, ⟨rest, Nat.lt_of_succ_lt (Nat.lt_of_succ_lt h)⟩)
    | _, _                  => none

def tokens (cs : List Char) : Option (List Token) :=
  match cs with
  | []        => some []
  | '<' :: cs => do
    let (t, ⟨rest, h⟩) ← readTag cs
    have : rest.length < ('<' :: cs).length := Nat.lt_succ_of_lt h
    return t :: (← tokens rest)
  | c :: cs   => do
    let s ← textOf? (c :: cs.takeWhile (· ≠ '<'))
    have : (cs.dropWhile (· ≠ '<')).length < (c :: cs).length := Nat.lt_succ_of_le (length_dropWhile_le _ cs)
    return .text s :: (← tokens (cs.dropWhile (· ≠ '<')))
termination_by cs.length
decreasing_by all_goals exact this

-- An element that has not been closed, and what stands before it, latest first.
structure Frame where
  name       : String
  attributes : List (String × String)
  before     : List Xml

-- The elements and texts that tokens stand for, after those in `nodes`, latest first. Every element
-- is closed under its own name.
def nest (frames : List Frame) (nodes : List Xml) : List Token → Option (List Xml)
  | []                     => if frames.isEmpty then some nodes.reverse else none
  | .text s :: ts          => nest frames (text s :: nodes) ts
  | .empty name as :: ts   => nest frames (element name as [] :: nodes) ts
  | .opening name as :: ts => nest (⟨name, as, nodes⟩ :: frames) [] ts
  | .closing name :: ts    => match frames with
    | []      => none
    | f :: fs => if f.name = name then nest fs (element name f.attributes nodes.reverse :: f.before) ts else none

def single? : List Xml → Option Xml
  | [element name as content] => some (element name as content)
  | _                         => none

-- The element that a document without a prologue spells, possibly with blanks around it.
def read (source : String) : Option Xml := do
  single? (← nest [] [] (← tokens (Text.stripBy isBlank source.toList)))

-- What a document says by all rules: there are only permitted characters in it, and line ends of
-- every kind are line feeds.
def parse (source : String) : Option Xml :=
  if source.toList.all isChar then read (String.ofList (FileText.plainLines source.toList)) else none

end Xml
end Gamebook
