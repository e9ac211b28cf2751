import Gamebook.Json.Writer
import Gamebook.Number.Shortest
import Gamebook.Text.Quoted
import Gamebook.Time.Timestamp

namespace Gamebook

-- What the text of a definition file can stand for. Text is all that a plain file holds; the other
-- scalars come from numbers and booleans of JSON and from tagged YAML.
inductive Scalar
  | null
  | bool   (b : Bool)
  | int    (i : Int)
  | float  (f : Binary64)
  | text   (s : String)
  | bytes  (bs : List UInt8)
  | date   (d : Date)
  | moment (t : Timestamp)
deriving DecidableEq, Inhabited

-- Definition data. The keys of a map are distinct in the sense of `Scalar.same`.
inductive Datum
  | scalar (s : Scalar)
  | list   (items : List Datum)
  | map    (entries : List (Scalar × Datum))
  | set    (members : List Scalar)
  | pair   (key value : Datum)
deriving Inhabited

namespace Scalar

-- The whole or floating point number that a scalar counts as. Booleans count as one and zero.
def number? : Scalar → Option (Int ⊕ Binary64)
  | bool b  => some (.inl (if b then 1 else 0))
  | int i   => some (.inl i)
  | float f => some (f.toInt?.elim (.inr f) .inl)
  | _       => none

-- Are two keys one? Numbers are compared by value, moments by when they are.
def same (k l : Scalar) : Bool :=
  match k, l with
  | moment t, moment u => t.same u
  | _, _ => match k.number?, l.number? with
    | some (.inl i), some (.inl j) => i == j
    | some (.inr f), some (.inr g) => f.same g
    | some _, _ | _, some _        => false
    | none, none                   => k == l

-- A whole number with too many digits has no text.
def isOversize : Scalar → Bool
  | int i => (Json.int i).isOversize
  | _     => false

def intText (i : Int) : String :=
  String.ofList (if i < 0 then '-' :: Nat.toDigits 10 i.natAbs else Nat.toDigits 10 i.natAbs)

def toText : Scalar → String
  | null       => "None"
  | bool true  => "True"
  | bool false => "False"
  | int i      => intText i
  | float f    => f.text
  | text s     => s
  | bytes bs   => Text.quotedBytes bs
  | date d     => d.text
  | moment t   => t.isoWith ' '

-- The way a scalar is written inside a set.
def toQuoted : Scalar → String
  | text s => Text.quoted s
  | date d => "datetime.date" ++ arguments [d.year, d.month, d.day] ""
  | moment ⟨d, t, o⟩ =>
    let ns := [d.year, d.month, d.day, t.hour, t.minute] ++
      (if t.second = 0 ∧ t.microsecond = 0 then [] else [t.second]) ++
      (if t.microsecond = 0 then [] else [t.microsecond])
    "datetime.datetime" ++ arguments ns (o.elim "" fun o => ", tzinfo=" ++ zone o)
  | s => s.toText
where
  arguments (ns : List Nat) (more : String) : String :=
    "(" ++ ", ".intercalate (ns.map fun (n : Nat) => intText n) ++ more ++ ")"
  zone (o : Offset) : String :=
    if o.minutes = 0 then "datetime.timezone.utc"
    else
      let days := if o.minutes < 0 then "days=-1, " else ""
      let seconds := o.minutes % 1440 * 60
      "datetime.timezone(datetime.timedelta(" ++ days ++ "seconds=" ++ intText seconds ++ "))"

end Scalar

namespace Datum

def null : Datum := scalar .null

def text (s : String) : Datum := scalar (.text s)

-- Adds an entry to a map. A key that comes again keeps its first place and form.
def put (k : Scalar) (v : Datum) : List (Scalar × Datum) → List (Scalar × Datum)
  | []      => [(k, v)]
  | e :: es => if e.1.same k then (e.1, v) :: es else e :: put k v es

def get? (entries : List (Scalar × Datum)) (name : String) : Option Datum :=
  (entries.find? (·.1 = .text name)).map Prod.snd

-- The value of a member, a missing one and one that is null being alike.
def member? (entries : List (Scalar × Datum)) (name : String) : Option Datum :=
  match get? entries name with
  | some (scalar .null) => none
  | v                   => v

mutual
def ofJson : Json → Datum
  | .null    => scalar .null
  | .bool b  => scalar (.bool b)
  | .int i   => scalar (.int i)
  | .float f => scalar (.float f)
  | .str s   => scalar (.text s)
  | .arr xs  => list (ofItems xs)
  | .obj ms  => map (ofMembers ms)

def ofItems : List Json → List Datum
  | []      => []
  | x :: xs => ofJson x :: ofItems xs

def ofMembers : List (String × Json) → List (Scalar × Datum)
  | []           => []
  | (k, x) :: ms => (.text k, ofJson x) :: ofMembers ms
end

-- The name of a datum's type in messages.
def typeName : Datum → String
  | scalar .null       => "null"
  | scalar (.bool _)   => "boolean"
  | scalar (.int _)    => "number"
  | scalar (.float _)  => "number"
  | scalar (.text _)   => "string"
  | scalar (.bytes _)  => "bytes"
  | scalar (.date _)   => "date"
  | scalar (.moment _) => "datetime"
  | list _             => "array"
  | map _              => "object"
  | set _              => "set"
  | pair _ _           => "tuple"

-- Does a datum that is neither a list nor a map have no text?
def isOversize : Datum → Bool
  | scalar s => s.isOversize
  | set ms   => ms.any Scalar.isOversize
  | _        => false

-- The text that a datum which is neither a list nor a map is read as.
def toText : Datum → String
  | scalar (.bool true)  => "true"
  | scalar (.bool false) => "false"
  | scalar s             => s.toText
  | set []               => "set()"
  | set ms               => "\x7b" ++ ", ".intercalate (ms.map Scalar.toQuoted) ++ "\x7d"
  | _                    => ""

end Datum
end Gamebook
