import Paymaster.Payroll.Run
import Paymaster.Retry.Run

/-
  One monthly run as an attempt that can be retried. Each attempt reads the wall clock afresh; the
  database is the world that the calls share.
-/

namespace Paymaster.Payroll

/-- A wall clock and its zone, how long the database takes to answer, and the timers. -/
structure Surroundings where
  /-- The reading of the wall clock after a time. -/
  clock : Duration → Instant
  zone : Zone
  /-- How long each call of a database that is there takes. -/
  latency : Duration
  timers : Retry.Timers := .exact

/-- The error that a failure is reported as. No run overflows; the case is there to be total. -/
def Failure.toError : Failure → Error
  | .error e => e
  | .overflow operation => .database (.custom operation.message)

/-- The reply of an operation on the database; abandoned before its end, it leaves no trace. A
database that is not there refuses at once. -/
def answer {α : Type} (latency : Duration) (m : LedgerM α) (db : Database) :
    Retry.Reply Database α :=
  let takes := if db.refusal.isNone then latency else 0
  match m.run db with
  | (.ok a, db') => { result := .ok a, takes, after := db', abandoned := db }
  | (.error f, db') =>
    { result := .error (Failure.toError f), takes, after := db', abandoned := db }

/-- Pings the database, then pays every budget that is owed its month. -/
def host (s : Surroundings) : Retry.Host Database (List Application) where
  ping _ db := answer s.latency LedgerM.ping db
  attempt t db := answer s.latency (monthlyReport s.zone (s.clock t)) db
  timers := s.timers

/-- A monthly run with retries. -/
def runWithRetry (s : Surroundings) (p : Retry.Policy) (m : Retry.Moment Database) :
    Retry.Outcome (List Application) × Retry.Moment Database :=
  Retry.run (host s) p m

end Paymaster.Payroll
