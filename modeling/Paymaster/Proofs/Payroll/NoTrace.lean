import Paymaster.Proofs.AutoBalance.Replacement
import Paymaster.Proofs.Payroll.Runs

/-
  Operations that fail leave no trace.
  Such an operation checks first and only reads while it does so; all that it writes it writes in
  one transaction; and what comes after the commit cannot fail. So whichever step fails, be it a
  check, a balance, an entry or a marker, of the first budget or of the last, the database is what
  it was before (`LedgerM.AllOrNothing`). The runs of payroll and the replacement of a
  configuration are built in this way (`failed_leaves_no_trace`).
-/

namespace Paymaster

/-- How many transactions are counted as open. -/
def Database.depth : Database → Nat
  | .live s => s.depth
  | _ => 0

/-- Between the two nothing was done. Within a transaction of its caller an operation that failed
may leave its savepoint behind; the store is the same in any case. -/
structure Unchanged (db db' : Database) : Prop where
  store : db'.store? = db.store?
  whole : db.depth = 0 → db' = db

theorem Unchanged.refl (db : Database) : Unchanged db db := ⟨rfl, fun _ => rfl⟩

namespace LedgerM

variable {α β : Type} {m : LedgerM α} {k : α → LedgerM β}

/-- Whenever the operation fails, nothing was done. -/
def AllOrNothing (m : LedgerM α) : Prop :=
  ∀ db failure db', m.run db = (.error failure, db') → Unchanged db db'

/-- However far a transaction has come when it fails, it is undone as a whole. -/
theorem Confined.allOrNothing (h : Confined m) : AllOrNothing m.transaction := by
  intro db failure db' failed
  cases db with
  | live s =>
    rw [h.run_transaction] at failed
    rcases onStored : m.onStore s.store with ⟨cause | a, t⟩ <;> rw [onStored] at failed
    · cases failed
      exact ⟨rfl, fun outermost => congrArg Database.live (Session.afterUndoing_eq_self outermost)⟩
    · cases failed
  | disconnected =>
    rw [run_transaction_of_refusal m rfl] at failed
    cases failed
    exact Unchanged.refl _
  | closed =>
    rw [run_transaction_of_refusal m rfl] at failed
    cases failed
    exact Unchanged.refl _

theorem allOrNothing_fail (e : Error) : AllOrNothing (fail e : LedgerM α) := by
  intro db failure db' failed
  cases failed
  exact Unchanged.refl db

/-- Checks may come first. -/
theorem Reads.allOrNothing_bind (h : Reads m) (hk : ∀ a, AllOrNothing (k a)) :
    AllOrNothing (m >>= k) := by
  intro db failure db' failed
  rcases h.bind_cases k db with ⟨cause, refused⟩ | ⟨a, -, goes_on⟩
  · rw [refused] at failed
    cases failed
    exact Unchanged.refl db
  · rw [goes_on] at failed
    exact hk a db failure db' failed

/-- A result may be made of what was done, which cannot fail. -/
theorem AllOrNothing.bind_pure (h : AllOrNothing m) (f : α → β) :
    AllOrNothing (m >>= fun a => pure (f a)) := by
  intro db failure db' failed
  rw [run_bind] at failed
  rcases ran : m.run db with ⟨cause | a, db₁⟩ <;> rw [ran] at failed
  · cases failed
    exact h db failure db' ran
  · cases failed

end LedgerM

namespace Payroll

open Ledger

theorem Run.allOrNothing_report (z : Zone) (now : Instant) (r : Run) :
    (r.report z now).AllOrNothing := by
  rw [report_eq]
  exact (r.reads_opening z now).allOrNothing_bind fun period =>
    (r.confined_work period).allOrNothing

theorem allOrNothing_monthlyReport (z : Zone) (now : Instant) :
    (monthlyReport z now).AllOrNothing :=
  Run.monthly.allOrNothing_report z now

theorem allOrNothing_runBudget (id : BudgetId) (actor : Option UserId) (z : Zone) (now : Instant)
    (force : Bool) : (runBudget id actor z now force).AllOrNothing :=
  ((Run.single id actor force).allOrNothing_report z now).bind_pure List.length

theorem allOrNothing_replace (budget : BudgetId) (actor : Option UserId) (enabled : Bool)
    (sources : List AutoBalance.SourceWeight) (now : Instant) :
    (AutoBalance.replace budget actor enabled sources now).AllOrNothing := by
  rw [AutoBalance.replace_eq]
  refine (reads_ensureAccess budget actor).allOrNothing_bind fun _ => ?_
  split
  · refine (AutoBalance.reads_ensureSources actor sources).allOrNothing_bind fun _ => ?_
    exact (AutoBalance.confined_write budget enabled sources now).allOrNothing
  · exact LedgerM.allOrNothing_fail _

/-- A run over all budgets, a run for one budget and the replacement of a configuration do all or
nothing: if one of them fails, at whatever step, the database is what it was. -/
theorem failed_leaves_no_trace (z : Zone) (now : Instant) (id : BudgetId) (actor : Option UserId)
    (force enabled : Bool) (sources : List AutoBalance.SourceWeight) (db : Database)
    (failure : Failure) (db' : Database)
    (failed : (monthlyReport z now).run db = (.error failure, db') ∨
      (runBudget id actor z now force).run db = (.error failure, db') ∨
      (AutoBalance.replace id actor enabled sources now).run db = (.error failure, db')) :
    db'.store? = db.store? ∧ (db.depth = 0 → db' = db) := by
  have unchanged : Unchanged db db' := by
    rcases failed with failed | failed | failed
    · exact allOrNothing_monthlyReport z now db failure db' failed
    · exact allOrNothing_runBudget id actor z now force db failure db' failed
    · exact allOrNothing_replace id actor enabled sources now db failure db' failed
  exact ⟨unchanged.store, unchanged.whole⟩

/-- Two budgets that are owed their month. The first is in debt and draws on a third; the ledger
takes no entry for the second. -/
def halfRejected : Store where
  budgets := [⟨1, "rent", ⟨100⟩, none, true, Instant.first, Instant.first⟩,
    ⟨2, "food", ⟨50⟩, none, false, Instant.first, Instant.first⟩,
    ⟨3, "rest", ⟨0⟩, none, false, Instant.first, Instant.first⟩]
  entries := [⟨1, 1, none, "", .debit, ⟨40⟩, Instant.first, Instant.first⟩]
  edges := [⟨1, 3, 1⟩]
  rejecting := [2]
  lastBudget := 3
  lastEntry := 1
  budgets_byId := by decide
  entries_byId := by decide
  entries_le := by decide
  edges_byKey := by decide

/-- The first of these can be paid, with four writes and a marker. A run over all of them fails at
the second, and then the first is as it was, too. -/
theorem failed_leaves_no_trace_halfRejected :
    let march : Instant := { seconds := 1710504000, nanos := 0 }
    let db : Database := .live { store := halfRejected }
    ((runBudget 1 none .utc march false).run db).1 = .ok 1 ∧
      (monthlyReport .utc march).run db =
        (.error (.error (.database Store.entryRejected)), db) := by
  intro march db
  refine ⟨by decide +kernel, ?_⟩
  have fails : ((monthlyReport .utc march).run db).1 =
      .error (.error (.database Store.entryRejected)) := by decide +kernel
  rcases ran : (monthlyReport .utc march).run db with ⟨result, db'⟩
  rw [ran] at fails
  cases fails
  have nothing := failed_leaves_no_trace .utc march 1 none false false [] db _ db' (.inl ran)
  rw [nothing.2 rfl]

end Payroll

end Paymaster
