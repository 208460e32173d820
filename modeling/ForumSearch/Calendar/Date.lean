/-!
Dates of the proleptic Gregorian calendar and their day numbers, counted from 1970-01-01.
Years are astronomical: year 0 comes before year 1.
-/

namespace ForumSearch

structure Date where
  year : Int
  month : Nat
  day : Nat
  deriving DecidableEq, Repr

namespace Date

def isLeap (year : Int) : Bool :=
  year % 4 == 0 && (year % 100 != 0 || year % 400 == 0)

def daysInMonth (year : Int) (month : Nat) : Nat :=
  if month = 2 then if isLeap year then 29 else 28
  else if month = 4 ∨ month = 6 ∨ month = 9 ∨ month = 11 then 30
  else 31

/-- The month and the day exist. -/
def Exists (d : Date) : Prop :=
  1 ≤ d.month ∧ d.month ≤ 12 ∧ 1 ≤ d.day ∧ d.day ≤ daysInMonth d.year d.month

instance (d : Date) : Decidable d.Exists :=
  inferInstanceAs (Decidable (_ ∧ _ ∧ _ ∧ _))

/-- The days from 1970-01-01 to a date. Years are counted from March, so that a leap day is
the last day of its year. -/
def dayNumber (d : Date) : Int :=
  let y := if d.month ≤ 2 then d.year - 1 else d.year
  let m := (d.month + 9) % 12
  365 * y + y / 4 - y / 100 + y / 400 + ((153 * m + 2) / 5 : Nat) + d.day - 719469

def ofDayNumber (n : Int) : Date :=
  let z := n + 719468
  let era := z / 146097
  let doe := (z % 146097).toNat
  let yoe := (doe - doe / 1460 + doe / 36524 - doe / 146096) / 365
  let doy := doe - (365 * yoe + yoe / 4 - yoe / 100)
  let m := (5 * doy + 2) / 153
  let month := if m < 10 then m + 3 else m - 9
  let year := (yoe : Int) + era * 400
  ⟨if month ≤ 2 then year + 1 else year, month, doy - (153 * m + 2) / 5 + 1⟩

def minYear : Int := -262143

def maxYear : Int := 262142

def minDayNumber : Int := dayNumber ⟨minYear, 1, 1⟩

def maxDayNumber : Int := dayNumber ⟨maxYear, 12, 31⟩

end Date

end ForumSearch
