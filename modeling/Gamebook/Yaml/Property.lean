import Gamebook.Json.Reader
import Gamebook.Yaml.Cursor
import Gamebook.Yaml.Fault
import Gamebook.Yaml.Token

namespace Gamebook
namespace Yaml
namespace Property

-- Anchors, tags and directives: the names in a text.

abbrev Rest (α : Type) : Type :=
  α × List Char

def expect (p : Bool) : Except Fault Unit :=
  if p then .ok () else .error .malformed

def word (cs : List Char) : Except Fault (Rest String) := do
  let w := cs.takeWhile isWord
  expect !w.isEmpty
  return (String.ofList w, cs.dropWhile isWord)

def endsAnchor (c : Option Char) : Bool :=
  c.all fun c => isWhite c || isBreak c || "?:,]\x7d%@".toList.contains c || c.toNat = 0x60

-- The name of an anchor or alias.
def anchor (cs : List Char) : Except Fault (Rest String) := do
  let (name, cs) ← word cs
  expect (endsAnchor cs.head?)
  return (name, cs)

def isUriChar (c : Char) : Bool :=
  c.isAlphanum || "-;/?:@&=+$,_.!~*()[]".toList.contains c || c.toNat = 0x27

-- The bytes of consecutive escapes with a percent sign and two hexadecimal digits each.
def escapedBytes : List Char → Except Fault (Rest (List UInt8))
  | '%' :: a :: b :: cs => do
    match Text.hexValue? a, Text.hexValue? b with
    | some a, some b =>
      let (bytes, rest) ← escapedBytes cs
      return (UInt8.ofNat (a * 16 + b) :: bytes, rest)
    | _, _ => throw .malformed
  | '%' :: _ => .error .malformed
  | cs       => .ok ([], cs)

-- The characters of a tag, with escapes resolved.
def uriChars : Nat → List Char → Except Fault (Rest (List Char))
  | 0,        cs => .ok ([], cs)
  | fuel + 1, cs =>
    let w := cs.takeWhile isUriChar
    let cs := cs.dropWhile isUriChar
    if cs.head? = some '%' then do
      let (bytes, cs) ← escapedBytes cs
      let some s := String.fromUTF8? ⟨bytes.toArray⟩ | throw .malformed
      let (t, cs) ← uriChars fuel cs
      return (w ++ s.toList ++ t, cs)
    else .ok (w, cs)

def uri (cs : List Char) : Except Fault (Rest String) := do
  expect (cs.head?.any fun c => isUriChar c || c = '%')
  let (s, cs) ← uriChars cs.length cs
  return (String.ofList s, cs)

-- An exclamation mark alone before a space, or two with a word or nothing between them.
def handle (cs : List Char) : Except Fault (Rest String) :=
  match cs with
  | '!' :: cs =>
    let w := cs.takeWhile isWord
    match cs.dropWhile isWord with
    | '!' :: rest => .ok (String.ofList ('!' :: w ++ ['!']), rest)
    | _           => if cs.head? = some ' ' then .ok ("!", cs) else .error .malformed
  | _ => .error .malformed

-- The tag that starts with the exclamation mark before `cs`.
def tag (cs : List Char) : Except Fault (Rest Token) := do
  let (t, cs) ←
    if cs.head? = some '<' then do
      let (s, cs) ← uri (cs.drop 1)
      expect (cs.head? = some '>')
      pure (Token.tag none s, cs.drop 1)
    else if endsWord cs.head? then pure (Token.tag none "!", cs)
    else if (cs.takeWhile fun c => !endsPart (some c)).contains '!' then do
      let (h, cs) ← handle ('!' :: cs)
      let (s, cs) ← uri cs
      pure (Token.tag (some h) s, cs)
    else do
      let (s, cs) ← uri cs
      pure (Token.tag (some "!") s, cs)
  expect (endsPart cs.head?)
  return (t, cs)

def number (cs : List Char) : Except Fault (Rest Nat) := do
  let ds := cs.takeWhile (·.isDigit)
  expect !ds.isEmpty
  if Numeral.digitLimit < ds.length then throw (.unfit .number)
  return (Nat.ofDigitChars 10 ds 0, cs.drop ds.length)

def skipSpaces (cs : List Char) : List Char :=
  cs.dropWhile (· = ' ')

-- The directive that starts with the percent sign before `cs`, up to the end of its value.
def directive (cs : List Char) : Except Fault (Rest Directive) := do
  let (name, cs) ← word cs
  expect (endsPart cs.head?)
  if name = "YAML" then
    let (major, cs) ← number (skipSpaces cs)
    expect (cs.head? = some '.')
    let (_, cs) ← number (cs.drop 1)
    expect (endsPart cs.head?)
    return (.version major, cs)
  else if name = "TAG" then
    let (h, cs) ← handle (skipSpaces cs)
    expect (cs.head? = some ' ')
    let (p, cs) ← uri (skipSpaces cs)
    expect (endsPart cs.head?)
    return (.tag h p, cs)
  else return (.other, cs.dropWhile (!isBreak ·))

end Property
end Yaml
end Gamebook
