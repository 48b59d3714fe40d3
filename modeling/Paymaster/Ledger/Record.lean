import Paymaster.Error.Basic

/-
  The records that the store keeps.
  A budget's balance is not among its fields: it is the sum of its ledger entries, credits counted
  up and debits down. An edge lets its target draw on its source; a member may act on a budget.
  Instants stand here as they were written. The texts that hold them give them back, but for a leap
  second within a minute, which would come back as part of the second after it.
-/

namespace Paymaster

abbrev UserId := Int64

/-- Whether an entry adds to a budget or takes from it. -/
inductive Direction
  | credit
  | debit
deriving DecidableEq, Repr

namespace Direction

def isCredit : Direction → Bool
  | credit => true
  | debit => false

def ofIsCredit (isCredit : Bool) : Direction := if isCredit then credit else debit

end Direction

structure Budget where
  id : BudgetId
  name : String
  /-- What is credited once a month; nothing is paid unless it is positive. -/
  payroll : Money
  /-- The run marker: when payroll was last applied. -/
  runAt : Option Instant
  /-- A deficit is covered from the source budgets before payroll is credited. -/
  autoBalance : Bool
  createdAt : Instant
  updatedAt : Instant
deriving DecidableEq, Repr

structure Entry where
  id : Int64
  budget : BudgetId
  /-- The acting user; none for entries that the engine makes. -/
  actor : Option UserId
  description : String
  direction : Direction
  amount : Money
  createdAt : Instant
  updatedAt : Instant
deriving DecidableEq, Repr

namespace Entry

/-- The amount with its sign, as an exact integer. -/
def signedCents (e : Entry) : Int :=
  match e.direction with
  | .credit => e.amount.toInt
  | .debit => -e.amount.toInt

/-- The amount with its sign, refused for a debit whose negation is not an amount. -/
def signedAmount (e : Entry) : Except Overflow Money :=
  match e.direction with
  | .credit => .ok e.amount
  | .debit => e.amount.negate

end Entry

/-- `target` draws on `source` in proportion to `weight`. -/
structure Edge where
  target : BudgetId
  source : BudgetId
  weight : Int32
deriving DecidableEq, Repr

/-- The order of edges: by target, then by source. -/
def Edge.before (a b : Edge) : Bool :=
  a.target < b.target || (a.target = b.target && a.source < b.source)

structure Member where
  budget : BudgetId
  user : UserId
deriving DecidableEq, Repr

/-- The order of members: by budget, then by user. -/
def Member.before (a b : Member) : Bool :=
  a.budget < b.budget || (a.budget = b.budget && a.user < b.user)

end Paymaster
