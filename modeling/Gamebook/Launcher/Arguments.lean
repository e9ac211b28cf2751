namespace Gamebook

-- How the arguments of a program are told apart.

-- What an option is for. A value belongs to some of them.
inductive Role (κ : Type)
  | help
  | flag (key : κ)
  | value (key : κ)
deriving DecidableEq, Repr

-- A name under which an option is known.
structure OptionName (κ : Type) where
  name : List Char
  role : Role κ
deriving Repr

-- Why arguments are not carried out.
inductive Usage
  | help
  | wrong
deriving DecidableEq, Repr

-- What is joined to the name of an option: a value after an equals sign, or more letters.
inductive Joined
  | value (cs : List Char)
  | letters (cs : List Char)
deriving Repr

-- An argument: a word, an option, or the mark after which all is words.
inductive Argument (κ : Type)
  | word (s : String)
  | option (o : OptionName κ) (joined : Option Joined)
  | unknown
  | mark
deriving Repr

namespace Argument

def dash : Char := '-'

def isLong (cs : List Char) : Bool :=
  cs.take 2 = [dash, dash]

def isNegativeNumber (cs : List Char) : Bool :=
  let digits := cs.drop 1
  let places := (digits.dropWhile (·.isDigit)).drop 1
  cs.head? = some dash && if digits.all (·.isDigit) then !digits.isEmpty
    else (digits.dropWhile (·.isDigit)).head? = some '.' && !places.isEmpty && places.all (·.isDigit)

-- What stands before the first equals sign, and what follows it.
def splitValue (cs : List Char) : List Char × Option (List Char) :=
  match cs.dropWhile (· ≠ '=') with
  | []      => (cs, none)
  | _ :: vs => (cs.takeWhile (· ≠ '='), some vs)

-- The options that an argument can be short for. To a name of one letter more may be joined
-- without an equals sign.
def candidates (names : List (OptionName κ)) (cs : List Char) :
    List (OptionName κ × Option Joined) :=
  if isLong cs then
    let (start, value) := splitValue cs
    (names.filter fun o => start.isPrefixOf o.name).map (·, value.map .value)
  else names.filterMap fun o =>
    if o.name = cs.take 2 then some (o, some (.letters (cs.drop 2)))
    else if cs.isPrefixOf o.name then some (o, none)
    else none

-- An argument that is short for several options is an error. One that is short for none is a word
-- if it could not be an option.
def guess (names : List (OptionName κ)) (s : String) : Except Usage (Argument κ) :=
  let cs := s.toList
  match candidates names cs with
  | [(o, joined)] => .ok (.option o joined)
  | _ :: _        => .error .wrong
  | []            => .ok (if isNegativeNumber cs || cs.contains ' ' then .word s else .unknown)

def ofText (names : List (OptionName κ)) (s : String) : Except Usage (Argument κ) :=
  let cs := s.toList
  if cs.head? ≠ some dash then .ok (.word s)
  else match names.find? (·.name = cs) with
    | some o => .ok (.option o none)
    | none   =>
      if cs.length = 1 then .ok (.word s)
      else match splitValue cs with
        | (start, some value) => match names.find? (·.name = start) with
          | some o => .ok (.option o (some (.value value)))
          | none   => guess names s
        | (_, none) => guess names s

def ofTexts (names : List (OptionName κ)) : List String → Except Usage (List (Argument κ))
  | []      => .ok []
  | s :: ss =>
    if s.toList = [dash, dash] then .ok (.mark :: ss.map .word)
    else do return (← ofText names s) :: (← ofTexts names ss)

-- What arguments come to: options with their values in order, words, and whether something has
-- been left over.
structure Parsed (κ : Type) where
  options : List (κ × Option String)
  words   : List String
  extra   : Bool

namespace Parsed

def empty : Parsed κ :=
  ⟨[], [], false⟩

def withOption (k : κ) (v : Option String) (p : Parsed κ) : Parsed κ :=
  { p with options := (k, v) :: p.options }

def withWord (w : String) (p : Parsed κ) : Parsed κ :=
  { p with words := w :: p.words }

def withExtra (p : Parsed κ) : Parsed κ :=
  { p with extra := true }

def has [DecidableEq κ] (p : Parsed κ) (k : κ) : Bool :=
  p.options.any (·.1 = k)

-- Of several values of an option the last one counts.
def value? [DecidableEq κ] (p : Parsed κ) (k : κ) : Option String :=
  (p.options.reverse.find? (·.1 = k)).bind Prod.snd

end Parsed

-- The roles of an option that takes no value and of the letters that are joined to it, and whether
-- the last ones of these are not known.
def joinedRoles (names : List (OptionName κ)) (o : OptionName κ) :
    List Char → Except Usage (List (Role κ) × Bool)
  | []      => .error .wrong
  | c :: cs =>
    if isLong o.name || c = dash then .error .wrong
    else match names.find? (·.name = [dash, c]) with
      | none   => .ok ([o.role], true)
      | some p =>
        if cs.isEmpty then .ok ([o.role, p.role], false)
        else if cs.head? = some '=' then .error .wrong
        else do
          let (roles, extra) ← joinedRoles names p cs
          return (o.role :: roles, extra)

-- Help is given before anything else is looked at.
def applyRoles (rest : Except Usage (Parsed κ)) : List (Role κ) → Except Usage (Parsed κ)
  | []            => rest
  | .help :: _    => .error .help
  | .flag k :: rs => Parsed.withOption k none <$> applyRoles rest rs
  | .value _ :: _ => .error .wrong

def applyJoined (names : List (OptionName κ)) (rest : Except Usage (Parsed κ)) (o : OptionName κ) :
    Joined → Except Usage (Parsed κ)
  | .value cs   => match o.role with
    | .value k => Parsed.withOption k (some (String.ofList cs)) <$> rest
    | _        => .error .wrong
  | .letters cs => do
    let (roles, extra) ← joinedRoles names o cs
    applyRoles (if extra then Parsed.withExtra <$> rest else rest) roles

-- Reads arguments of which at most so many are words. A value is given by the next word. A mark
-- is dropped together with the word before or after it.
def parse (names : List (OptionName κ)) : Nat → List (Argument κ) → Except Usage (Parsed κ)
  | _,     []                       => .ok .empty
  | n,     .unknown :: as           => Parsed.withExtra <$> parse names n as
  | n,     .option o (some j) :: as => applyJoined names (parse names n as) o j
  | n,     .option o none :: as     => match o.role, as with
    | .value k, .word w :: as => Parsed.withOption k (some w) <$> parse names n as
    | r,        as            => applyRoles (parse names n as) [r]
  | n + 1, .mark :: .word w :: as   => Parsed.withWord w <$> parse names n as
  | n + 1, .word w :: .mark :: as   => Parsed.withWord w <$> parse names n as
  | n + 1, .word w :: as            => Parsed.withWord w <$> parse names n as
  | n,     _ :: as                  => Parsed.withExtra <$> parse names n as

-- Reads arguments up to the first word, which has to be there.
def parseStart (names : List (OptionName κ)) : List (Argument κ) → Except Usage (Parsed κ)
  | .unknown :: as           => Parsed.withExtra <$> parseStart names as
  | .option o (some j) :: as => applyJoined names (parseStart names as) o j
  | .option o none :: as     => applyRoles (parseStart names as) [o.role]
  | .word w :: _             => .ok (Parsed.empty.withWord w)
  | _                        => .error .wrong

def isWord : Argument κ → Bool
  | word _ => true
  | _      => false

end Argument
end Gamebook
