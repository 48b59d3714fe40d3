import Paymaster.Proofs.Ledger.Confined

/-
  Operations that only read.
  Such an operation leaves the database as it found it, whether it succeeds or fails. What follows
  one runs on the database that was there before it, or does not run at all (`Reads.bind_cases`).
  Looking up rows, checking access and finding a start of a month are of this kind.
-/

namespace Paymaster

namespace LedgerM

variable {α β : Type}

/-- The operation leaves every database as it was. -/
def Reads (m : LedgerM α) : Prop := ∀ db, (m.run db).2 = db

theorem reads_pure (a : α) : Reads (pure a) := fun _ => rfl

theorem reads_fail (e : Error) : Reads (fail e : LedgerM α) := fun _ => rfl

theorem reads_query (f : Store → α) : Reads (query f) := by
  intro db
  cases db <;> rfl

/-- After an operation that only reads, either nothing runs or what follows runs on the same
database. -/
theorem Reads.bind_cases {m : LedgerM α} (h : Reads m) (k : α → LedgerM β) (db : Database) :
    (∃ failure, (m >>= k).run db = (.error failure, db)) ∨
      ∃ a, m.run db = (.ok a, db) ∧ (m >>= k).run db = (k a).run db := by
  have same := h db
  rw [run_bind]
  rcases ran : m.run db with ⟨failure | a, db'⟩ <;> rw [ran] at same <;> cases same
  · exact .inl ⟨failure, rfl⟩
  · exact .inr ⟨a, rfl, rfl⟩

theorem Reads.bind {m : LedgerM α} {k : α → LedgerM β} (h : Reads m) (hk : ∀ a, Reads (k a)) :
    Reads (m >>= k) := by
  intro db
  rcases h.bind_cases k db with ⟨failure, failed⟩ | ⟨a, -, goes_on⟩
  · rw [failed]
  · rw [goes_on]
    exact hk a db

theorem reads_scheduled (x : Except ScheduleError α) : Reads (scheduled x) := by
  cases x
  · exact reads_fail _
  · exact reads_pure _

theorem run_scheduled_ok {x : Except ScheduleError α} {a : α} {db : Database}
    (h : (scheduled x).run db = (.ok a, db)) : x = .ok a := by
  cases x <;> cases h
  rfl

end LedgerM

/-- A caller without an actor may act on every budget, a user on those that they are a member of. -/
def Store.admits (s : Store) (id : BudgetId) : Option UserId → Bool
  | none => true
  | some user => s.isMember id user

theorem Store.admits_congr {s t : Store} (same : t.members = s.members) (id : BudgetId)
    (actor : Option UserId) : t.admits id actor = s.admits id actor := by
  cases actor with
  | none => rfl
  | some user => rw [admits, isMember, same]; rfl

namespace Ledger

theorem reads_ensureAccess (id : BudgetId) (actor : Option UserId) :
    (ensureAccess id actor).Reads := by
  cases actor with
  | none => exact LedgerM.reads_pure _
  | some user =>
    refine (LedgerM.reads_query _).bind fun member => ?_
    split
    · exact LedgerM.reads_pure _
    · exact LedgerM.reads_fail _

theorem reads_lockBudget (id : BudgetId) : (lockBudget id).Reads := by
  refine (LedgerM.reads_query _).bind fun found => ?_
  split
  · exact LedgerM.reads_pure _
  · exact LedgerM.reads_fail _

theorem run_ensureAccess (id : BudgetId) (actor : Option UserId) (s : Session) :
    (ensureAccess id actor).run (.live s) =
      if s.store.admits id actor then (.ok (), .live s)
      else (.error (.error (.budgetNotFound id)), .live s) := by
  cases actor with
  | none => rfl
  | some user =>
    rw [ensureAccess, LedgerM.run_bind]
    show LedgerM.run (if s.store.isMember id user then _ else _) (.live s) = _
    rw [Store.admits]
    split <;> rfl

theorem run_lockBudget (id : BudgetId) (s : Session) :
    (lockBudget id).run (.live s) = match s.store.budget? id with
      | some b => (.ok b, .live s)
      | none => (.error (.error (.budgetNotFound id)), .live s) := by
  rw [lockBudget, LedgerM.run_bind]
  show LedgerM.run (match s.store.budget? id with | some b => pure b | none => _) (.live s) = _
  rcases s.store.budget? id with _ | b <;> rfl

theorem onStore_lockBudget (id : BudgetId) (s : Store) :
    (lockBudget id).onStore s = match s.budget? id with
      | some b => (.ok b, s)
      | none => (.error (.error (.budgetNotFound id)), s) := by
  rw [LedgerM.onStore, run_lockBudget]
  rcases s.budget? id with _ | b <;> rfl

end Ledger

end Paymaster
