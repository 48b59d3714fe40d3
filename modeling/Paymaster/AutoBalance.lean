import Paymaster.Ledger.Operations

/-
  The auto-balance configuration of a budget: whether its deficits are covered, and from where.
  `validate` checks a list of sources on its own, `replace` checks it against the store as well
  and puts it in the place of the old one in a single transaction. Sources of no weight are
  accepted and not kept.
-/

namespace Paymaster.AutoBalance

/-- A source and its share of a deficit, 0 to 100. -/
structure SourceWeight where
  source : BudgetId
  weight : Int32
deriving DecidableEq, Repr

structure Configuration where
  enabled : Bool
  sources : List SourceWeight
deriving DecidableEq, Repr

def maxWeight : Int32 := 100

/-- Checks sources in order, given the ids already seen: no budget is its own source, weights lie
in 0 to 100, no source is listed twice. -/
def validateFrom (budget : BudgetId) (seen : List BudgetId) :
    List SourceWeight → Except Error Unit
  | [] => .ok ()
  | s :: rest =>
    if s.source = budget then .error (.selfReferencingSource budget)
    else if s.weight < 0 || maxWeight < s.weight then .error (.invalidWeight s.source s.weight)
    else if seen.contains s.source then .error (.duplicateSource s.source)
    else validateFrom budget (s.source :: seen) rest

/-- Checks a list of sources without looking at the store. -/
def validate (budget : BudgetId) (sources : List SourceWeight) : Except Error Unit :=
  validateFrom budget [] sources

/-- The configuration of a budget, sources by id. -/
def read (budget : BudgetId) (actor : Option UserId) : LedgerM Configuration := do
  Ledger.ensureAccess budget actor
  let b ← Ledger.lockBudget budget
  let edges ← Ledger.sourcesOf budget
  pure ⟨b.autoBalance, edges.map fun e => ⟨e.source, e.weight⟩⟩

/-- Checks that the actor may draw on each source and that each exists. -/
def ensureSources (actor : Option UserId) : List SourceWeight → LedgerM Unit
  | [] => pure ()
  | s :: rest => do
    Ledger.ensureAccess s.source actor
    let _ ← Ledger.lockBudget s.source
    ensureSources actor rest

/-- The edges that a list of sources asks for. -/
def edges (budget : BudgetId) (sources : List SourceWeight) : List Edge :=
  (sources.filter (0 < ·.weight)).map fun s => ⟨budget, s.source, s.weight⟩

/-- Replaces the configuration of a budget. -/
def replace (budget : BudgetId) (actor : Option UserId) (enabled : Bool)
    (sources : List SourceWeight) (now : Instant) : LedgerM Unit := do
  Ledger.ensureAccess budget actor
  match validate budget sources with
  | .ok () => pure ()
  | .error e => .fail e
  ensureSources actor sources
  LedgerM.transaction do
    let rows ← LedgerM.statement
      (Store.updateBudget budget fun b => { b with autoBalance := enabled, updatedAt := now })
    if rows = 0 then .fail (.budgetNotFound budget)
    else
      let _ ← LedgerM.statement (Store.deleteSourcesOf budget)
      LedgerM.statement (Store.insertEdges (edges budget sources))

end Paymaster.AutoBalance
