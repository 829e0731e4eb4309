/-!
# The calendar

Days are counted from 1 January 1970 in the proleptic Gregorian calendar, over
the years -262143 to 262142.
-/

namespace ChainGateway.Calendar

structure Date where
  year : Int
  month : Nat
  day : Nat
  deriving DecidableEq, Repr

def firstYear : Int := -262143

def lastYear : Int := 262142

def isLeap (y : Int) : Bool :=
  y % 4 == 0 && (y % 100 != 0 || y % 400 == 0)

def daysInMonth (y : Int) (m : Nat) : Nat :=
  if m = 2 then (if isLeap y then 29 else 28)
  else if m = 4 ∨ m = 6 ∨ m = 9 ∨ m = 11 then 30
  else 31

def Date.Valid (d : Date) : Prop :=
  firstYear ≤ d.year ∧ d.year ≤ lastYear ∧ 1 ≤ d.month ∧ d.month ≤ 12 ∧
    1 ≤ d.day ∧ d.day ≤ daysInMonth d.year d.month

instance (d : Date) : Decidable d.Valid := by unfold Date.Valid; infer_instance

/-- Days from 1 March of the year 0 to 1 March of year `y`. -/
def daysBeforeMarch (y : Int) : Int :=
  365 * y + y / 4 - y / 100 + y / 400

/-- The number of a date; years are taken to begin in March, so that the leap day is
the last of its year. -/
def dayNumber (d : Date) : Int :=
  let y := if d.month ≤ 2 then d.year - 1 else d.year
  let m : Int := ((d.month + 9) % 12 : Nat)
  daysBeforeMarch y + (153 * m + 2) / 5 + (d.day - 1 : Int) - 719468

def dateOf (n : Int) : Date :=
  let z := n + 719468
  let era := z / 146097
  let dayOfEra := z % 146097
  let yearOfEra := (dayOfEra - dayOfEra / 1460 + dayOfEra / 36524 - dayOfEra / 146096) / 365
  let dayOfYear := dayOfEra - (365 * yearOfEra + yearOfEra / 4 - yearOfEra / 100)
  let m := (5 * dayOfYear + 2) / 153
  let day := dayOfYear - (153 * m + 2) / 5 + 1
  let month := if m < 10 then m + 3 else m - 9
  let year := era * 400 + yearOfEra + (if month ≤ 2 then 1 else 0)
  ⟨year, month.toNat, day.toNat⟩

def firstDay : Int := dayNumber ⟨firstYear, 1, 1⟩

def lastDay : Int := dayNumber ⟨lastYear, 12, 31⟩

end ChainGateway.Calendar
