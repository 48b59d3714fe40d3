import Paymaster.Payroll.Application

/-
  Runs of payroll: over every budget that is owed its month, or over one budget.
  Each run is one transaction. The start of the month is found before the database is touched; a
  run for one budget first checks that its actor may act on it.
-/

namespace Paymaster.Payroll

/-- Pays the budgets in order and lists what was done. -/
def applyAll (period : Period) : List Budget → LedgerM (List Application)
  | [] => pure []
  | b :: bs => do
    let application ← apply b period false
    let applications ← applyAll period bs
    pure (application.toList ++ applications)

/-- Pays every budget that is owed payroll for the month that holds `now`. -/
def monthlyReport (z : Zone) (now : Instant) : LedgerM (List Application) := do
  let period ← LedgerM.scheduled (Period.containing z now)
  LedgerM.transaction do
    let pending ← Ledger.eligibleBudgets period.monthStart
    applyAll period pending

/-- Pays every budget that is owed payroll and counts them. -/
def runMonthly (z : Zone) (now : Instant) : LedgerM Nat := do
  let applications ← monthlyReport z now
  pure applications.length

/-- Pays one budget, if its actor may act on it. -/
def budgetReport (id : BudgetId) (actor : Option UserId) (z : Zone) (now : Instant)
    (force : Bool) : LedgerM (List Application) := do
  Ledger.ensureAccess id actor
  let period ← LedgerM.scheduled (Period.containing z now)
  LedgerM.transaction do
    let b ← Ledger.lockBudget id
    let application ← apply b period force
    pure application.toList

/-- Pays one budget and counts the credits of payroll, 0 or 1. -/
def runBudget (id : BudgetId) (actor : Option UserId) (z : Zone) (now : Instant) (force : Bool) :
    LedgerM Nat := do
  let applications ← budgetReport id actor z now force
  pure applications.length

end Paymaster.Payroll
