import Paymaster.Ledger.Record

/-
  The month that a run pays for: the instant of the run, the start of the month in the caller's
  zone, and the month's name for descriptions.
-/

namespace Paymaster.Payroll

structure Period where
  /-- The instant of the run, which stamps its entries and markers. -/
  now : Instant
  monthStart : Instant
  /-- The month's name and year. -/
  label : String
deriving DecidableEq, Repr

namespace Period

/-- The period of the local month that holds `now`. -/
def containing (z : Zone) (now : Instant) : Except ScheduleError Period :=
  match Calendar.monthStart z now with
  | .ok monthStart => .ok ⟨now, monthStart, Calendar.monthLabel z now⟩
  | .error cause => .error cause

/-- The description of the entry that credits payroll. -/
def description (p : Period) : String := "Payroll " ++ p.label

end Period

/-- The description of both sides of a transfer that covers a deficit. -/
def transferDescription (budget : String) : String := "Auto-balance for " ++ budget

/-- The run marker lies in the month that starts at `monthStart`, or later. -/
def alreadyPaid (runAt : Option Instant) (monthStart : Instant) : Bool :=
  match runAt with
  | none => false
  | some runAt => monthStart ≤ runAt

end Paymaster.Payroll
