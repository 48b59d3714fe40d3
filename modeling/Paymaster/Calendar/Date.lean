import Paymaster.Text.Decimal

/-
  Dates of the proleptic Gregorian calendar and their count of days from 1970-01-01.
  `daysBeforeYear` counts from the first day of year 0; a year starts where the count of the
  years before it ends, so `yearOf` only has to correct an estimate by one. `Date.toDays` and
  `Date.ofDays` are the two directions.
-/

namespace Paymaster

namespace Calendar

def isLeap (year : Int) : Bool := year % 4 = 0 ∧ (year % 100 ≠ 0 ∨ year % 400 = 0)

/-- The days from the first day of year 0 to the first day of `year`. -/
def daysBeforeYear (year : Int) : Int :=
  365 * year + (year + 3) / 4 - (year + 99) / 100 + (year + 399) / 400

/-- The days from the first day of year 0 to 1970-01-01. -/
def epochDay : Int := 719528

def daysInMonth (leap : Bool) : Nat → Nat
  | 2 => if leap then 29 else 28
  | 4 | 6 | 9 | 11 => 30
  | _ => 31

/-- The days of a year that lie before the first of `month`. -/
def daysBeforeMonth (leap : Bool) (month : Nat) : Nat :=
  (List.range (month - 1)).foldl (fun days m => days + daysInMonth leap (m + 1)) 0

/-- The year that holds the day `n`, counted from the first day of year 0. -/
def yearOf (n : Int) : Int :=
  let estimate := 400 * n / 146097
  if n < daysBeforeYear estimate then estimate - 1
  else if daysBeforeYear (estimate + 1) ≤ n then estimate + 1
  else estimate

/-- The month that holds the day `n` of a year, counted from 0. -/
def monthOf (leap : Bool) (n : Nat) : Nat :=
  ((List.range 12).map (· + 1)).reverse.find? (daysBeforeMonth leap · ≤ n) |>.getD 1

def monthName : Nat → String
  | 1 => "January"
  | 2 => "February"
  | 3 => "March"
  | 4 => "April"
  | 5 => "May"
  | 6 => "June"
  | 7 => "July"
  | 8 => "August"
  | 9 => "September"
  | 10 => "October"
  | 11 => "November"
  | _ => "December"

/-- A year of 0 to 9999 has four digits; any other has a sign and at least four digits. -/
def yearChars (year : Int) : List Char :=
  if 0 ≤ year ∧ year ≤ 9999 then Decimal.padded 4 year.natAbs
  else (if year < 0 then '-' else '+') :: Decimal.padded 4 year.natAbs

end Calendar

structure Date where
  year : Int
  month : Nat
  day : Nat
deriving DecidableEq, Repr

namespace Date

/-- The date is one of the calendar. -/
def IsValid (d : Date) : Prop :=
  1 ≤ d.month ∧ d.month ≤ 12 ∧ 1 ≤ d.day ∧
    d.day ≤ Calendar.daysInMonth (Calendar.isLeap d.year) d.month

instance (d : Date) : Decidable d.IsValid := by unfold IsValid; infer_instance

/-- The days from 1970-01-01 to the date. -/
def toDays (d : Date) : Int :=
  Calendar.daysBeforeYear d.year - Calendar.epochDay +
    Calendar.daysBeforeMonth (Calendar.isLeap d.year) d.month + (d.day - 1)

/-- The date that lies `n` days after 1970-01-01. -/
def ofDays (n : Int) : Date :=
  let year := Calendar.yearOf (n + Calendar.epochDay)
  let leap := Calendar.isLeap year
  let dayOfYear := (n + Calendar.epochDay - Calendar.daysBeforeYear year).toNat
  let month := Calendar.monthOf leap dayOfYear
  ⟨year, month, dayOfYear - Calendar.daysBeforeMonth leap month + 1⟩

def chars (d : Date) : List Char :=
  Calendar.yearChars d.year ++ '-' :: Decimal.padded 2 d.month ++ '-' :: Decimal.padded 2 d.day

def text (d : Date) : String := String.ofList d.chars

end Date

end Paymaster
