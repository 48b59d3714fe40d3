import Paymaster.Payroll.Period
import Paymaster.Proofs.Calendar.FirstInstants

/-
  Finding a period with dates that can be written down.
  A local clock may show readings that lie before the first date or after the last one. Two of the
  readings that a period is found by are computed, one o'clock of the day where midnight is
  skipped, and that at which the month's name is read off; for a reading without a date the
  computation would stop (`reading`). It never does (`containingReadings_eq`): a year that has
  dates has all of its days (`day_bounds`), and other years are refused first.
-/

namespace Paymaster

namespace Calendar

/-- A reading of a local clock that has a date; without one the computation stops. -/
def reading (seconds : Int) : Option Int :=
  if firstSecond ≤ seconds ∧ seconds ≤ lastSecond then some seconds else none

/-- The start of a local day. Its second reading is computed only where the first one, midnight of a
date that exists, belongs to no instant. -/
def dayStartReadings (z : Zone) (date : Date) : Option (Except ScheduleError Instant) :=
  match z.earliest? (Zone.midnight date) with
  | some t => some (.ok t)
  | none => do
    let later ← reading (Zone.midnight date + 3600)
    match z.earliest? later with
    | some t => some (.ok t)
    | none => some (.error (.noMidnight date))

/-- A year that has dates has all of its days. -/
theorem day_bounds {n : Int} (year : hasYear (Date.ofDays n).year) :
    firstSecond ≤ n * 86400 ∧ n * 86400 + 86399 ≤ lastSecond := by
  obtain ⟨lower, upper⟩ := of_decide_eq_true year
  obtain ⟨start, stop⟩ := yearOf_spec (n + epochDay)
  change firstYear ≤ yearOf (n + epochDay) at lower
  change yearOf (n + epochDay) ≤ lastYear at upper
  generalize yearOf (n + epochDay) = year at *
  unfold daysBeforeYear epochDay at start stop
  unfold firstYear at lower
  unfold lastYear at upper
  unfold firstSecond lastSecond
  omega

theorem dayStartReadings_eq (z : Zone) {m : Month} (year : hasYear m.year) :
    dayStartReadings z m.first = some (dayStart z m.first) := by
  have bounds : firstSecond ≤ Zone.midnight m.first ∧
      Zone.midnight m.first + 86399 ≤ lastSecond := by
    refine day_bounds (n := m.firstDay) ?_
    rwa [ofDays_firstDay]
  have hour : reading (Zone.midnight m.first + 3600) = some (Zone.midnight m.first + 3600) :=
    if_pos ⟨by omega, by omega⟩
  rw [dayStartReadings, dayStart, ← Zone.midnight, hour]
  rcases z.earliest? (Zone.midnight m.first) with _ | t
  · rcases later : z.earliest? (Zone.midnight m.first + 3600) with _ | t <;> simp [later]
  · rfl

end Calendar

namespace Payroll.Period

open Calendar

/-- The period of the local month that holds `now`. The month's name is read off the local clock
once its start is known. -/
def containingReadings (z : Zone) (now : Instant) : Option (Except ScheduleError Period) :=
  let m := monthAt z now
  if hasYear m.year then do
    match ← dayStartReadings z m.first with
    | .ok monthStart =>
      let shown ← reading (z.localSeconds now)
      let date := Date.ofDays (shown / 86400)
      let label := monthName date.month ++ " " ++ String.ofList (yearChars date.year)
      some (.ok ⟨now, monthStart, label⟩)
    | .error cause => some (.error cause)
  else some (.error (.noFirstDay m.year m.month))

theorem containingReadings_eq (z : Zone) (now : Instant) :
    containingReadings z now = some (containing z now) := by
  rw [containingReadings, containing, monthStart_eq]
  by_cases year : hasYear (monthAt z now).year
  · have bounds := day_bounds (n := z.localSeconds now / 86400) year
    have shown : reading (z.localSeconds now) = some (z.localSeconds now) :=
      if_pos ⟨by omega, by omega⟩
    simp only [if_pos year, dayStartReadings_eq z year, shown]
    rcases dayStart z (monthAt z now).first with cause | start <;> rfl
  · simp only [if_neg year]

end Payroll.Period

end Paymaster
