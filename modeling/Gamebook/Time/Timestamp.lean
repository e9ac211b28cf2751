import Gamebook.Time.Date

namespace Gamebook

@[ext]
structure TimeOfDay where
  hour        : Nat
  minute      : Nat
  second      : Nat
  microsecond : Nat
  valid       : hour < 24 ∧ minute < 60 ∧ second < 60 ∧ microsecond < 1000000 := by decide
deriving DecidableEq, Repr

namespace TimeOfDay

def of? (hour minute second microsecond : Nat) : Option TimeOfDay :=
  if h : hour < 24 ∧ minute < 60 ∧ second < 60 ∧ microsecond < 1000000 then
    some ⟨hour, minute, second, microsecond, h⟩
  else none

def midnight : TimeOfDay := ⟨0, 0, 0, 0, by decide⟩

def seconds (t : TimeOfDay) : Nat :=
  (t.hour * 60 + t.minute) * 60 + t.second

-- The time `n` seconds and `us` microseconds after a midnight, whole days left out.
def ofSeconds (n us : Nat) : TimeOfDay where
  hour        := n / 3600 % 24
  minute      := n / 60 % 60
  second      := n % 60
  microsecond := us % 1000000
  valid       := by omega

end TimeOfDay

-- Minutes east of Greenwich, less than a day.
@[ext]
structure Offset where
  minutes : Int
  valid   : -1440 < minutes ∧ minutes < 1440 := by decide
deriving DecidableEq, Repr

namespace Offset

def of? (minutes : Int) : Option Offset :=
  if h : -1440 < minutes ∧ minutes < 1440 then some ⟨minutes, h⟩ else none

def utc : Offset := ⟨0, by decide⟩

end Offset

-- A day and a time as clocks show them, with the clocks' distance from Greenwich if it is known.
@[ext]
structure Timestamp where
  date   : Date
  time   : TimeOfDay
  offset : Option Offset
deriving DecidableEq, Repr

-- A number with leading zeros up to the given width.
def padded (width n : Nat) : List Char :=
  let ds := Nat.toDigits 10 n
  List.replicate (width - ds.length) '0' ++ ds

namespace Date

def chars (d : Date) : List Char :=
  padded 4 d.year ++ '-' :: padded 2 d.month ++ '-' :: padded 2 d.day

def text (d : Date) : String :=
  String.ofList d.chars

end Date

namespace TimeOfDay

-- Microseconds are written only if there are any.
def chars (t : TimeOfDay) : List Char :=
  padded 2 t.hour ++ ':' :: padded 2 t.minute ++ ':' :: padded 2 t.second ++
    if t.microsecond = 0 then [] else '.' :: padded 6 t.microsecond

end TimeOfDay

namespace Offset

def chars (o : Offset) : List Char :=
  let m := o.minutes.natAbs
  (if o.minutes < 0 then '-' else '+') :: padded 2 (m / 60) ++ ':' :: padded 2 (m % 60)

end Offset

namespace Timestamp

-- ISO 8601 with the given sign between day and time.
def isoWith (sep : Char) (t : Timestamp) : String :=
  String.ofList (t.date.chars ++ sep :: t.time.chars ++ (t.offset.map Offset.chars).getD [])

def iso (t : Timestamp) : String :=
  t.isoWith 'T'

-- ISO 8601 with the letter `Z` for the time of Greenwich.
def wire (t : Timestamp) : String :=
  String.ofList (t.date.chars ++ 'T' :: t.time.chars ++ zone t.offset)
where
  zone : Option Offset → List Char
    | none   => []
    | some o => if o.minutes = 0 then ['Z'] else o.chars

-- The moment that lies `seconds` and `us` microseconds after the start of 1970 in Greenwich.
def ofUnix? (seconds : Int) (us : Nat) : Option Timestamp := do
  let n := seconds + us / 1000000
  let date ← Date.ofDayNumber? (n / 86400)
  return ⟨date, .ofSeconds (n % 86400).toNat (us % 1000000), some .utc⟩

-- Microseconds since the start of 1970, in Greenwich if the distance is known.
def micros (t : Timestamp) : Int :=
  let minutes := (t.offset.map Offset.minutes).getD 0
  (t.date.dayNumber * 86400 + t.time.seconds - minutes * 60) * 1000000 + t.time.microsecond

-- Do two timestamps name the same moment? One with and one without a distance never do.
def same (t u : Timestamp) : Bool :=
  t.offset.isSome == u.offset.isSome && t.micros == u.micros

end Timestamp
end Gamebook
