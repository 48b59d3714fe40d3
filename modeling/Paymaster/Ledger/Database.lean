import Paymaster.Ledger.Session

/-
  Operations on a database, as they run one after the other.
  An operation gives a result or a failure and leaves the database as its statements made it, also
  when it fails half way. `transaction` makes it all or nothing: a failure inside restores what
  was there before (`run_transaction_error`), and a success stays (`run_transaction_ok`).
-/

namespace Paymaster

/-- A database, as its user sees it. -/
inductive Database
  | live (session : Session)
  /-- There never was one. -/
  | disconnected
  /-- Its pool of connections was closed. -/
  | closed
deriving DecidableEq, Repr

namespace Database

/-- Why no statement can be run. -/
def refusal : Database → Option DbError
  | live _ => none
  | disconnected => some .disconnected
  | closed => some .acquireClosed

def store? : Database → Option Store
  | live s => some s.store
  | _ => none

end Database

/-- An operation on a database. -/
abbrev LedgerM := ExceptT Failure (StateM Database)

namespace LedgerM

/-- The outcome of an operation and the database that it leaves. -/
def run {α : Type} (m : LedgerM α) (db : Database) : Except Failure α × Database :=
  StateT.run (ExceptT.run m) db

def fail {α : Type} (e : Error) : LedgerM α := throw (.error e)

/-- Asks something of the session. -/
def ask {α : Type} (f : Session → Except DbError α × Session) : LedgerM α := ExceptT.mk fun db =>
  match db with
  | .live s =>
    match f s with
    | (.ok a, s) => (.ok a, .live s)
    | (.error cause, s) => (.error (.error (.database cause)), .live s)
  | .disconnected => (.error (.error (.database .disconnected)), db)
  | .closed => (.error (.error (.database .acquireClosed)), db)

/-- Runs one statement; one that is refused changes nothing. -/
def statement {α : Type} (f : Store.Statement α) : LedgerM α := ask fun s =>
  match f s.store with
  | .ok (a, store) => (.ok a, { s with store })
  | .error cause => (.error cause, s)

/-- Reads the store. -/
def query {α : Type} (f : Store → α) : LedgerM α := statement fun s => .ok (f s, s)

/-- Adds a budget, with the given id or else a new one. If no id is left, all that is open is
given up. -/
def insertBudget (id? : Option BudgetId) (make : BudgetId → Budget) : LedgerM BudgetId :=
  ask fun s =>
    match Store.insertBudget id? make s.store with
    | .ok (id, store) => (.ok id, { s with store })
    | .error cause => (.error cause, if cause = Store.idsExhausted then s.giveUp else s)

/-- Carries on with a result whose computation may have left the 64-bit range. -/
def checked {α : Type} : Except Overflow α → LedgerM α
  | .ok a => pure a
  | .error operation => throw (.overflow operation)

/-- Carries on with the start of a month, if there is one. -/
def scheduled {α : Type} : Except ScheduleError α → LedgerM α
  | .ok a => pure a
  | .error cause => fail (.schedule cause)

/-! ## Transactions -/

/-- Runs an operation and goes on whether or not it fails. -/
def outcome {α : Type} (m : LedgerM α) : LedgerM (Except Failure α) := ExceptT.mk fun db =>
  let (result, db) := m.run db
  (.ok result, db)

def begin : LedgerM Unit := ask fun s => (.ok (), s.begin)

/-- Ends a transaction in one of the two ways; if that is refused, it stays as it is. -/
def finish (f : Session → Except DbError Session) : LedgerM Unit := ask fun s =>
  match f s with
  | .ok s => (.ok (), s)
  | .error cause => (.error cause, s)

/-- Runs an operation as a whole: if it fails, the database is as it was before. -/
def transaction {α : Type} (m : LedgerM α) : LedgerM α := do
  begin
  match ← outcome m with
  | .ok a =>
    finish Session.commit
    pure a
  | .error failure =>
    let _ ← outcome (finish Session.rollBack)
    throw failure

/-- Runs an operation for its outcome alone; the database stays as it was. -/
def rehearsal {α : Type} (m : LedgerM α) : LedgerM α := do
  begin
  let result ← outcome m
  finish Session.rollBack
  liftExcept result
where
  liftExcept : Except Failure α → LedgerM α
    | .ok a => pure a
    | .error failure => throw failure

/-! ## How operations run -/

theorem run_pure {α : Type} (a : α) (db : Database) : run (pure a) db = (.ok a, db) := rfl

theorem run_throw {α : Type} (failure : Failure) (db : Database) :
    run (throw failure : LedgerM α) db = (.error failure, db) := rfl

theorem run_bind {α β : Type} (m : LedgerM α) (f : α → LedgerM β) (db : Database) :
    (m >>= f).run db = match m.run db with
      | (.ok a, db) => (f a).run db
      | (.error failure, db) => (.error failure, db) := by
  show (ExceptT.bindCont f (m.run db).1).run (m.run db).2 = _
  rcases m.run db with ⟨_ | _, _⟩ <;> rfl

theorem run_outcome {α : Type} (m : LedgerM α) (db : Database) :
    (outcome m).run db = (.ok (m.run db).1, (m.run db).2) := rfl

theorem run_ask_ok {α : Type} {f : Session → Except DbError α × Session} {s t : Session} {a : α}
    (h : f s = (.ok a, t)) : (ask f).run (.live s) = (.ok a, .live t) := by
  simp [run, ask, StateT.run, ExceptT.run, ExceptT.mk, h]

theorem run_begin (s : Session) : begin.run (.live s) = (.ok (), .live s.begin) := rfl

theorem run_finish_ok {f : Session → Except DbError Session} {s t : Session} (h : f s = .ok t) :
    (finish f).run (.live s) = (.ok (), .live t) :=
  run_ask_ok (by simp [h])

theorem run_transaction_ok {α : Type} {m : LedgerM α} {s t : Session} {a : α}
    (h : m.run (.live s.begin) = (.ok a, .live t)) (hs : t.savepoints = s.begin.savepoints)
    (hd : t.depth = s.begin.depth) :
    m.transaction.run (.live s) =
      (.ok a, .live { store := t.store, savepoints := s.savepoints, depth := s.depth }) := by
  simp only [transaction, run_bind, run_begin, run_outcome, h, run_pure,
    run_finish_ok (Session.commit_begin hs hd)]

theorem run_transaction_error {α : Type} {m : LedgerM α} {s t : Session} {failure : Failure}
    (h : m.run (.live s.begin) = (.error failure, .live t))
    (hs : t.savepoints = s.begin.savepoints) (hd : t.depth = s.begin.depth) :
    m.transaction.run (.live s) = (.error failure, .live s.afterUndoing) := by
  simp only [transaction, run_bind, run_begin, run_outcome, h, run_throw,
    run_finish_ok (Session.rollBack_begin hs hd)]

/-! ## The connection -/

/-- Checks that the database answers. -/
def ping : LedgerM Unit := ExceptT.mk fun db =>
  match db.refusal with
  | some cause => (.error (.error (.unavailable cause.text)), db)
  | none => (.ok (), db)

/-- Closes the pool of connections; to close it again does nothing. -/
def close : LedgerM Unit := ExceptT.mk fun db =>
  match db with
  | .disconnected => (.error (.error (.database .disconnected)), db)
  | _ => (.ok (), .closed)

/-- Makes the tables where they are missing. -/
def createTables : LedgerM Unit := query fun _ => ()

end LedgerM

end Paymaster
