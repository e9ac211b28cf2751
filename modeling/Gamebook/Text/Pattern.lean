namespace Gamebook

-- Regular expressions over characters.
inductive Pattern
  | fail
  | empty
  | one (p : Char → Bool)
  | seq (r s : Pattern)
  | alt (r s : Pattern)
  | star (r : Pattern)

namespace Pattern

def nullable : Pattern → Bool
  | fail    => false
  | empty   => true
  | one _   => false
  | seq r s => r.nullable && s.nullable
  | alt r s => r.nullable || s.nullable
  | star _  => true

def isFail : Pattern → Bool
  | fail => true
  | _    => false

-- Failures are cut off, so that a derivative does not grow with the text.

def then' (r s : Pattern) : Pattern :=
  if r.isFail || s.isFail then fail else match r with
    | empty => s
    | r     => seq r s

def or' (r s : Pattern) : Pattern :=
  if r.isFail then s else if s.isFail then r else alt r s

-- What is left to match after a character.
def derivative (c : Char) : Pattern → Pattern
  | fail    => fail
  | empty   => fail
  | one p   => if p c then empty else fail
  | seq r s =>
    let d := (r.derivative c).then' s
    if r.nullable then d.or' (s.derivative c) else d
  | alt r s => (r.derivative c).or' (s.derivative c)
  | star r  => (r.derivative c).then' (star r)

-- Does the pattern match the whole text?
def matchesAll (r : Pattern) (cs : List Char) : Bool :=
  (cs.foldl (fun r c => r.derivative c) r).nullable

-- Does the pattern match the whole text, or all of it but a line feed at its end?
def matchesLine (r : Pattern) (cs : List Char) : Bool :=
  r.matchesAll cs || (cs.getLast? = some '\n' && r.matchesAll cs.dropLast)

def char (c : Char) : Pattern :=
  one (· = c)

def word (s : String) : Pattern :=
  s.toList.foldr (fun c r => seq (char c) r) empty

def words (ws : List String) : Pattern :=
  ws.foldr (fun w r => alt (word w) r) fail

def opt (r : Pattern) : Pattern :=
  alt r empty

def plus (r : Pattern) : Pattern :=
  seq r (star r)

def all (rs : List Pattern) : Pattern :=
  rs.foldr seq empty

def any (rs : List Pattern) : Pattern :=
  rs.foldr alt fail

-- Between `n` and `n + more` times.
def times (r : Pattern) (n more : Nat) : Pattern :=
  all (List.replicate n r ++ List.replicate more (opt r))

def digit : Pattern :=
  one Char.isDigit

def oneOf (s : String) : Pattern :=
  one s.toList.contains

end Pattern
end Gamebook
