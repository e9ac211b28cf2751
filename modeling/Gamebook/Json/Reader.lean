import Gamebook.Json.Basic
import Gamebook.Number.Numeral
import Gamebook.Text.Quoted

namespace Gamebook
namespace Json

-- What is wrong at some place of a text that is not JSON.
inductive Cause
  | value
  | propertyName
  | colon
  | comma
  | unterminated
  | control
  | escape
  | unicodeEscape
  | extra
  | byteOrderMark
deriving DecidableEq, Repr

inductive ReadError
  | malformed (cause : Cause) (offset : Nat)
  | numberTooLong
deriving DecidableEq, Repr

namespace Cause

def message : Cause → String
  | value         => "Expecting value"
  | propertyName  => "Expecting property name enclosed in double quotes"
  | colon         => "Expecting ':' delimiter"
  | comma         => "Expecting ',' delimiter"
  | unterminated  => "Unterminated string starting at"
  | control       => "Invalid control character at"
  | escape        => "Invalid \\escape"
  | unicodeEscape => "Invalid \\uXXXX escape"
  | extra         => "Extra data"
  | byteOrderMark => "Unexpected UTF-8 BOM (decode using utf-8-sig)"

end Cause

-- Where a reader fails is told by how many characters are left there.
inductive Failure
  | malformed (cause : Cause) (left : Nat)
  | numberTooLong

-- A reader's result is what it has read and a rest that is shorter than what it was given.
abbrev Read (α : Type) (cs : List Char) : Type :=
  Except Failure (α × { rest : List Char // rest.length < cs.length })

def isBlank (c : Char) : Bool :=
  c = ' ' || c = '\t' || c = '\n' || c = '\r'

def skip (cs : List Char) : List Char :=
  cs.dropWhile isBlank

theorem length_dropWhile_le (p : Char → Bool) (cs : List Char) :
    (cs.dropWhile p).length ≤ cs.length :=
  (List.dropWhile_suffix p).length_le

theorem length_skip_le (cs : List Char) : (skip cs).length ≤ cs.length :=
  length_dropWhile_le isBlank cs

theorem length_drop_lt_cons (c : Char) (cs : List Char) (n : Nat) : (cs.drop n).length < (c :: cs).length :=
  Nat.lt_succ_of_le (List.drop_suffix n cs).length_le

theorem length_lt_cons {cs rest : List Char} (c : Char) (h : rest.length < cs.length) :
    rest.length < (c :: cs).length :=
  Nat.lt_succ_of_lt h

theorem length_lt_of_skip {cs rest : List Char} {c : Char} (h : skip cs = c :: rest) : rest.length < cs.length := by
  have hs := length_skip_le cs
  rwa [h] at hs

-- The number that four hexadecimal digits stand for. At least one more character must follow.
def unit? : List Char → Option Nat
  | a :: b :: c :: d :: _ :: _ => do
    return (((← Text.hexValue? a) * 16 + (← Text.hexValue? b)) * 16 + (← Text.hexValue? c)) * 16 + (← Text.hexValue? d)
  | _ => none

def isHighSurrogate (n : Nat) : Bool := 0xd800 ≤ n && n ≤ 0xdbff

def isLowSurrogate (n : Nat) : Bool := 0xdc00 ≤ n && n ≤ 0xdfff

-- The character of a 16-bit unit. A surrogate that stands alone has none.
def unitChar (n : Nat) : Char :=
  if isHighSurrogate n || isLowSurrogate n then '\ufffd' else Char.ofNat n

def pairChar (high low : Nat) : Char :=
  Char.ofNat (0x10000 + (high - 0xd800) * 0x400 + (low - 0xdc00))

def simpleEscape? (c : Char) : Option Char :=
  if c = Text.quotation || c = Text.backslash || c = '/' then some c
  else if c = 'b' then some '\x08'
  else if c = 'f' then some '\x0c'
  else if c = 'n' then some '\n'
  else if c = 'r' then some '\r'
  else if c = 't' then some '\t'
  else none

-- The character that `\u` and the digits after it stand for, with how many characters these and
-- a second unit take.
def unicodeEscape? (cs : List Char) : Except Failure (Char × Nat) :=
  match unit? cs with
  | none      => .error (.malformed .unicodeEscape (cs.length + 1))
  | some high =>
    match cs.drop 4 with
    | '\\' :: 'u' :: cs' =>
      if isHighSurrogate high && 5 ≤ cs'.length then
        match unit? cs' with
        | none     => .error (.malformed .unicodeEscape (cs'.length + 1))
        | some low =>
          if isLowSurrogate low then .ok (pairChar high low, 10) else .ok (unitChar high, 4)
      else .ok (unitChar high, 4)
    | _ => .ok (unitChar high, 4)

-- The characters up to the closing quotation mark. `start` begins with the opening one.
def readString (start cs : List Char) : Read (List Char) cs :=
  match cs with
  | []      => .error (.malformed .unterminated start.length)
  | c :: cs =>
    if c = Text.quotation then .ok ([], ⟨cs, Nat.lt_succ_self cs.length⟩)
    else if c = Text.backslash then
      match cs with
      | []       => .error (.malformed .unterminated start.length)
      | e :: cs' =>
        if e = 'u' then do
          let (c, n) ← unicodeEscape? cs'
          let (s, ⟨rest, h⟩) ← readString start (cs'.drop n)
          return (c :: s, ⟨rest, Nat.lt_trans h (length_lt_cons _ (length_drop_lt_cons e cs' n))⟩)
        else match simpleEscape? e with
          | none   => .error (.malformed .escape (cs'.length + 2))
          | some c => do
            let (s, ⟨rest, h⟩) ← readString start cs'
            return (c :: s, ⟨rest, length_lt_cons _ (length_lt_cons e h)⟩)
    else if c.toNat < 0x20 then .error (.malformed .control (cs.length + 1))
    else do
      let (s, ⟨rest, h⟩) ← readString start cs
      return (c :: s, ⟨rest, length_lt_cons c h⟩)
termination_by cs.length
decreasing_by
  · exact length_lt_cons _ (length_drop_lt_cons _ _ _)
  · exact length_lt_cons _ (Nat.lt_succ_self _)
  · exact Nat.lt_succ_self _

-- The digits before the point: a zero alone, or digits that do not start with one.
def wholePart : List Char → List Char
  | '0' :: _ => ['0']
  | cs       => cs.takeWhile (·.isDigit)

-- A point and at least one digit, or nothing.
def fraction : List Char → List Char
  | '.' :: cs =>
    let ds := cs.takeWhile (·.isDigit)
    if ds.isEmpty then [] else '.' :: ds
  | _ => []

-- An `e`, a sign or none, and at least one digit, or nothing.
def exponent : List Char → List Char
  | c :: cs =>
    if c = 'e' || c = 'E' then
      let sign := cs.take 1 |>.filter fun c => c = '+' || c = '-'
      let ds := (cs.drop sign.length).takeWhile (·.isDigit)
      if ds.isEmpty then [] else c :: sign ++ ds
    else []
  | [] => []

-- A number and how many characters it takes, at least one.
def readNumber (cs : List Char) : Except Failure (Json × Nat) :=
  let sign := cs.take 1 |>.filter (· = '-')
  let cs' := cs.drop sign.length
  let whole := wholePart cs'
  let frac := fraction (cs'.drop whole.length)
  let exp := exponent (cs'.drop (whole.length + frac.length))
  if whole.isEmpty then .error (.malformed .value cs.length)
  else if frac.isEmpty && exp.isEmpty then
    if Numeral.digitLimit < whole.length then .error .numberTooLong
    else
      let n : Int := Numeral.ofDigits whole
      .ok (.int (if sign.isEmpty then n else -n), sign.length + whole.length)
  else
    let f := (Numeral.unsigned? (!sign.isEmpty) (whole ++ frac ++ exp)).getD .nan
    .ok (.float f, sign.length + whole.length + frac.length + exp.length)

-- The words that are values.
def words : List (List Char × Json) := [
  ("null".toList, .null),
  ("true".toList, .bool true),
  ("false".toList, .bool false),
  ("NaN".toList, .float .nan),
  ("Infinity".toList, .float (.infinite false)),
  ("-Infinity".toList, .float (.infinite true))
]

def readScalar (cs : List Char) : Except Failure (Json × Nat) :=
  match words.find? (·.1.isPrefixOf cs) with
  | some w => .ok (w.2, w.1.length)
  | none   => readNumber cs

mutual
def readValue (cs : List Char) : Read Json cs :=
  match cs with
  | []      => .error (.malformed .value 0)
  | c :: cs =>
    if c = Text.quotation then do
      let (s, ⟨rest, h⟩) ← readString (c :: cs) cs
      return (.str (String.ofList s), ⟨rest, length_lt_cons c h⟩)
    else if c = '\x7b' then
      have hs := length_skip_le cs
      match hc : skip cs with
      | '\x7d' :: rest => .ok (.obj [], ⟨rest, length_lt_cons c (length_lt_of_skip hc)⟩)
      | cs'            => do
        have hs' : cs'.length ≤ cs.length := hc ▸ hs
        let (ms, ⟨rest, h⟩) ← readMembers [] cs'
        return (.obj ms, ⟨rest, length_lt_cons c (Nat.lt_of_lt_of_le h hs')⟩)
    else if c = '[' then
      have hs := length_skip_le cs
      match hc : skip cs with
      | ']' :: rest => .ok (.arr [], ⟨rest, length_lt_cons c (length_lt_of_skip hc)⟩)
      | cs'         => do
        have hs' : cs'.length ≤ cs.length := hc ▸ hs
        let (xs, ⟨rest, h⟩) ← readItems cs'
        return (.arr xs, ⟨rest, length_lt_cons c (Nat.lt_of_lt_of_le h hs')⟩)
    else do
      let (j, n) ← readScalar (c :: cs)
      return (j, ⟨cs.drop (n - 1), length_drop_lt_cons c cs (n - 1)⟩)
termination_by (cs.length, 0)
decreasing_by all_goals exact Prod.Lex.left _ _ (Nat.lt_succ_of_le hs')

-- What follows the opening bracket of an array that is not empty.
def readItems (cs : List Char) : Read (List Json) cs := do
  let (x, ⟨cs₁, h₁⟩) ← readValue cs
  match h : skip cs₁ with
  | ']' :: rest => return ([x], ⟨rest, Nat.lt_trans (length_lt_of_skip h) h₁⟩)
  | ',' :: cs₂  =>
    have h₂ : (skip cs₂).length < cs.length :=
      Nat.lt_of_le_of_lt (length_skip_le cs₂) (Nat.lt_trans (length_lt_of_skip h) h₁)
    let (xs, ⟨rest, h⟩) ← readItems (skip cs₂)
    return (x :: xs, ⟨rest, Nat.lt_trans h h₂⟩)
  | cs₂         => throw (.malformed .comma cs₂.length)
termination_by (cs.length, 1)
decreasing_by
  · exact Prod.Lex.right _ Nat.zero_lt_one
  · exact Prod.Lex.left _ _ h₂

-- What follows the opening brace, or a comma, of an object with the members `ms` so far.
def readMembers (ms : List (String × Json)) (cs : List Char) : Read (List (String × Json)) cs :=
  match cs with
  | []      => .error (.malformed .propertyName 0)
  | c :: cs =>
    if c ≠ Text.quotation then .error (.malformed .propertyName (cs.length + 1))
    else do
      let (k, ⟨cs₁, h₁⟩) ← readString (c :: cs) cs
      match h : skip cs₁ with
      | ':' :: cs₂ =>
        have h₂ : (skip cs₂).length < cs.length :=
          Nat.lt_of_le_of_lt (length_skip_le cs₂) (Nat.lt_trans (length_lt_of_skip h) h₁)
        let (x, ⟨cs₃, h₃⟩) ← readValue (skip cs₂)
        let ms' := Ordered.put (String.ofList k) x ms
        match h : skip cs₃ with
        | '\x7d' :: rest =>
          return (ms', ⟨rest, length_lt_cons c (Nat.lt_trans (length_lt_of_skip h) (Nat.lt_trans h₃ h₂))⟩)
        | ',' :: cs₄     =>
          have h₄ : (skip cs₄).length < cs.length :=
            Nat.lt_of_le_of_lt (length_skip_le cs₄)
              (Nat.lt_trans (length_lt_of_skip h) (Nat.lt_trans h₃ h₂))
          let (ms'', ⟨rest, h⟩) ← readMembers ms' (skip cs₄)
          return (ms'', ⟨rest, length_lt_cons c (Nat.lt_trans h h₄)⟩)
        | cs₄            => throw (.malformed .comma cs₄.length)
      | cs₂        => throw (.malformed .colon cs₂.length)
termination_by (cs.length, 1)
decreasing_by
  · exact Prod.Lex.left _ _ (length_lt_cons _ h₂)
  · exact Prod.Lex.left _ _ (length_lt_cons _ h₄)
end

def readDocument (cs : List Char) : Except Failure Json :=
  if cs.head? = some '\ufeff' then .error (.malformed .byteOrderMark cs.length)
  else do
    let (j, ⟨rest, _⟩) ← readValue (skip cs)
    match skip rest with
    | []   => return j
    | rest => throw (.malformed .extra rest.length)

-- The value that a text stands for.
def read (source : String) : Except ReadError Json :=
  let cs := source.toList
  match readDocument cs with
  | .ok j                     => .ok j
  | .error .numberTooLong     => .error .numberTooLong
  | .error (.malformed c left) => .error (.malformed c (cs.length - left))

-- Line and column of an offset, both counted from one.
def position (source : String) (offset : Nat) : Nat × Nat :=
  let before := source.toList.take offset
  (before.count '\n' + 1, (before.reverse.takeWhile (· ≠ '\n')).length + 1)

def Cause.describe (source : String) (cause : Cause) (offset : Nat) : String :=
  let (line, column) := position source offset
  s!"{cause.message}: line {line} column {column} (char {offset})"

end Json
end Gamebook
