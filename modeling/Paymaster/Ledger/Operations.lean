import Paymaster.Ledger.Database

/-
  What the engine asks of the ledger: whom to pay, what a budget holds, whom it may draw on, and
  the two writes of a run, entries and run markers. Entries are checked here: an amount that is
  not positive never reaches the store.
-/

namespace Paymaster.Ledger

/-- An entry that is still to be written. -/
structure NewEntry where
  budget : BudgetId
  actor : Option UserId
  description : String
  direction : Direction
  amount : Money
deriving DecidableEq, Repr

/-- An entry that the engine makes, without an actor. -/
def NewEntry.system (budget : BudgetId) (description : String) (direction : Direction)
    (amount : Money) : NewEntry :=
  ⟨budget, none, description, direction, amount⟩

/-- The record of a new entry. -/
def NewEntry.record (e : NewEntry) (now : Instant) (id : Int64) : Entry :=
  ⟨id, e.budget, e.actor, e.description, e.direction, e.amount, now, now⟩

/-- The budgets that are owed payroll for the month, by id. -/
def eligibleBudgets (monthStart : Instant) : LedgerM (List Budget) :=
  .query (·.eligible monthStart)

/-- The budget's row. -/
def lockBudget (id : BudgetId) : LedgerM Budget := do
  match ← LedgerM.query (·.budget? id) with
  | some b => pure b
  | none => .fail (.budgetNotFound id)

/-- Credits less debits over the budget's entries. -/
def currentBalance (id : BudgetId) : LedgerM Money :=
  .statement fun s =>
    match s.balance id with
    | .ok total => .ok (total, s)
    | .error cause => .error cause

/-- The edges by which the budget draws on others, by source id. -/
def sourcesOf (id : BudgetId) : LedgerM (List Edge) := .query (·.sourcesOf id)

/-- Writes an entry; its amount must be positive. -/
def insertEntry (e : NewEntry) (now : Instant) : LedgerM Entry :=
  if e.amount.isPositive then .statement (Store.insertEntry e.budget (e.record now))
  else .fail (.invalidAmount e.amount)

/-- Sets the run marker of a budget, whatever it was before. -/
def markRun (id : BudgetId) (now : Instant) : LedgerM Unit := do
  let rows ← LedgerM.statement
    (Store.updateBudget id fun b => { b with runAt := some now, updatedAt := now })
  if rows = 0 then .fail (.budgetNotFound id) else pure ()

/-- A caller without an actor may act on every budget, a user on the budgets that they are a
member of; any other budget looks to them as if it did not exist. -/
def ensureAccess (id : BudgetId) : Option UserId → LedgerM Unit
  | none => pure ()
  | some user => do
    if ← LedgerM.query (·.isMember id user) then pure () else .fail (.budgetNotFound id)

end Paymaster.Ledger
