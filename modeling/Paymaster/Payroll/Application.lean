import Paymaster.Payroll.Period
import Paymaster.Ledger.Operations
import Paymaster.Allocation

/-
  Paying one budget.
  `coverDeficit` first clears a negative balance: its magnitude is split over the source budgets,
  each positive part is debited there, and their sum is credited to the budget. `apply` then
  credits the payroll and moves the run marker, which never goes back. Neither is a transaction
  of its own.
-/

namespace Paymaster.Payroll

/-- What one source budget gave. -/
structure SourceDebit where
  source : BudgetId
  amount : Money
deriving DecidableEq, Repr

/-- Money moved into a budget to cover its deficit. -/
structure Transfer where
  /-- The magnitude of the negative balance. -/
  deficit : Money
  debits : List SourceDebit
  /-- What was credited. -/
  total : Money
deriving DecidableEq, Repr

/-- All that a run did for one budget. -/
structure Application where
  budget : BudgetId
  name : String
  payroll : Money
  transfer : Option Transfer
  /-- The run marker from now on. -/
  runAt : Instant
deriving DecidableEq, Repr

/-- Debits each source that is to pay something, in order. -/
def debitSources (description : String) (now : Instant) :
    List (BudgetId × Int) → LedgerM (List SourceDebit)
  | [] => pure []
  | (source, cents) :: rest =>
    if cents ≤ 0 then debitSources description now rest
    else do
      let amount ← match Money.ofInt? cents with
        | some amount => pure amount
        | none => throw (.overflow .add)
      let _ ← Ledger.insertEntry (.system source description .debit amount) now
      let debits ← debitSources description now rest
      pure (⟨source, amount⟩ :: debits)

/-- What each source is to pay of a deficit. -/
def shares (deficit : Money) (sources : List Edge) : List (BudgetId × Int) :=
  (sources.map (·.source)).zip
    (Allocation.allocate deficit.toInt (sources.map (·.weight.toInt)))

/-- Covers a negative balance from the sources; `none` if the balance is not negative or no
source has weight. -/
def coverDeficit (b : Budget) (now : Instant) : LedgerM (Option Transfer) := do
  let balance ← Ledger.currentBalance b.id
  if !balance.isNegative then pure none
  else
    let deficit := balance.abs
    let sources ← Ledger.sourcesOf b.id
    let debits ← debitSources (transferDescription b.name) now (shares deficit sources)
    let total ← LedgerM.checked (Money.sum (debits.map (·.amount)))
    if !total.isPositive then pure none
    else
      let _ ← Ledger.insertEntry (.system b.id (transferDescription b.name) .credit total) now
      pure (some ⟨deficit, debits, total⟩)

/-- The transfer before a payroll, for the budgets that ask for one. -/
def transferFor (b : Budget) (now : Instant) : LedgerM (Option Transfer) :=
  if b.autoBalance then coverDeficit b now else pure none

/-- The later of the old marker and the run. -/
def markerAfter (runAt : Option Instant) (now : Instant) : Instant :=
  match runAt with
  | none => now
  | some runAt => max runAt now

/-- Pays one budget, as it was read: nothing if no payroll is set, or if it was paid this month
and the run is not forced. -/
def apply (b : Budget) (period : Period) (force : Bool) : LedgerM (Option Application) :=
  if !b.payroll.isPositive then pure none
  else if !force && alreadyPaid b.runAt period.monthStart then pure none
  else do
    let transfer ← transferFor b period.now
    let _ ← Ledger.insertEntry (.system b.id period.description .credit b.payroll) period.now
    let runAt := markerAfter b.runAt period.now
    Ledger.markRun b.id runAt
    pure (some ⟨b.id, b.name, b.payroll, transfer, runAt⟩)

end Paymaster.Payroll
