namespace Gamebook

namespace Date

def isLeap (year : Nat) : Bool :=
  year % 4 = 0 && (year % 100 ≠ 0 || year % 400 = 0)

def daysInMonth (year month : Nat) : Nat :=
  if month = 2 then if isLeap year then 29 else 28
  else if month = 4 || month = 6 || month = 9 || month = 11 then 30
  else 31

def Valid (year month day : Nat) : Prop :=
  1 ≤ year ∧ year ≤ 9999 ∧ 1 ≤ month ∧ month ≤ 12 ∧ 1 ≤ day ∧ day ≤ daysInMonth year month

instance (year month day : Nat) : Decidable (Valid year month day) :=
  inferInstanceAs (Decidable (_ ∧ _ ∧ _ ∧ _ ∧ _ ∧ _))

end Date

-- Days of the Gregorian calendar from year 1 to year 9999.
@[ext]
structure Date where
  year  : Nat
  month : Nat
  day   : Nat
  valid : Date.Valid year month day := by decide
deriving DecidableEq, Repr

namespace Date

def of? (year month day : Nat) : Option Date :=
  if h : Valid year month day then some ⟨year, month, day, h⟩ else none

-- Years are counted from March here, so that the leap day is the last one, and in eras of 400
-- years, which have 146097 days each.

-- Days since 1970-01-01.
def dayNumber (d : Date) : Int :=
  let y : Nat := if d.month ≤ 2 then d.year - 1 else d.year
  let dayOfYear := (153 * ((d.month + 9) % 12) + 2) / 5 + d.day - 1
  let yearOfEra := y % 400
  let dayOfEra := yearOfEra * 365 + yearOfEra / 4 - yearOfEra / 100 + dayOfYear
  (y / 400 * 146097 + dayOfEra : Nat) - 719468

-- The day that is `n` days after 1970-01-01, if it lies in the calendar.
def ofDayNumber? (n : Int) : Option Date :=
  let z := n + 719468
  if z < 0 then none
  else
    let z := z.toNat
    let e := z % 146097
    let yearOfEra := (e - e / 1460 + e / 36524 - e / 146096) / 365
    let dayOfYear := e - (365 * yearOfEra + yearOfEra / 4 - yearOfEra / 100)
    let m := (5 * dayOfYear + 2) / 153
    let month := if m < 10 then m + 3 else m - 9
    let year := z / 146097 * 400 + yearOfEra + (if month ≤ 2 then 1 else 0)
    of? year month (dayOfYear - (153 * m + 2) / 5 + 1)

def epoch : Date := ⟨1970, 1, 1, by decide⟩

end Date
end Gamebook
