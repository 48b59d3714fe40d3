import Paymaster.Calendar.Zone

/-
  The first instants of months in a zone.
  A day starts at its local midnight, or at one o'clock where midnight is skipped; where neither
  exists there is no start (`ScheduleError`). `monthStart` is the start of the month that holds an
  instant, `nextMonthStart` that of the month after it.
-/

namespace Paymaster

/-- Why there is no start of a month. -/
inductive ScheduleError
  | noFirstDay (year : Int) (month : Nat)
  | noNextMonth (year : Int) (month : Nat)
  | noMidnight (date : Date)
  | other (text : String)
deriving DecidableEq, Repr

namespace ScheduleError

/-- The year as a plain number, the month with two digits. -/
def monthText (year : Int) (month : Nat) : String :=
  String.ofList (Decimal.signed year ++ '-' :: Decimal.padded 2 month)

def message : ScheduleError → String
  | noFirstDay year month => "no first day for " ++ monthText year month
  | noNextMonth year month => "no month after " ++ monthText year month
  | noMidnight date => "local midnight of " ++ date.text ++ " does not exist"
  | other text => text

end ScheduleError

namespace Calendar

def hasYear (year : Int) : Bool := firstYear ≤ year ∧ year ≤ lastYear

/-- The start of a local day. -/
def dayStart (z : Zone) (date : Date) : Except ScheduleError Instant :=
  let midnight := date.toDays * 86400
  match (z.earliest? midnight).or (z.earliest? (midnight + 3600)) with
  | some t => .ok t
  | none => .error (.noMidnight date)

def firstOfNextMonth (date : Date) : Date :=
  if date.month = 12 then ⟨date.year + 1, 1, 1⟩ else ⟨date.year, date.month + 1, 1⟩

/-- The start of the local month that holds `now`. -/
def monthStart (z : Zone) (now : Instant) : Except ScheduleError Instant :=
  let date := z.dateAt now
  if hasYear date.year then dayStart z ⟨date.year, date.month, 1⟩
  else .error (.noFirstDay date.year date.month)

/-- The start of the local month after the one that holds `now`. -/
def nextMonthStart (z : Zone) (now : Instant) : Except ScheduleError Instant :=
  let date := z.dateAt now
  let next := firstOfNextMonth date
  if hasYear date.year ∧ hasYear next.year then dayStart z next
  else .error (.noNextMonth date.year date.month)

/-- The name of the local month and its year. -/
def monthLabel (z : Zone) (now : Instant) : String :=
  let date := z.dateAt now
  monthName date.month ++ " " ++ String.ofList (yearChars date.year)

end Calendar

end Paymaster
