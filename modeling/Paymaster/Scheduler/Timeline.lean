import Paymaster.Scheduler.Cycle

/-
  A scheduler at work on a database that others change as well.
  Each change is due at a time of the scheduler's clock and is made before the first call from then
  on. Only a cycle that completed changes the database, when it ends; so the database at any time
  is the one that the last cycle before it left (`Trace.databaseAt`).
-/

namespace Paymaster.Scheduler

/-- A database, and the changes that are still to come, in the order of their times. -/
structure World where
  database : Database
  changes : List (Duration × (Database → Database)) := []

namespace World

/-- Makes the changes. -/
def applyAll (changes : List (Duration × (Database → Database))) (db : Database) : Database :=
  changes.foldl (fun db change => change.2 db) db

/-- The world once the changes due by `t` are made. -/
def upTo (w : World) (t : Duration) : World :=
  ⟨applyAll (w.changes.filter (·.1 ≤ t)) w.database, w.changes.filter (t < ·.1)⟩

/-- The database once all changes are made. -/
def settled (w : World) : Database := applyAll w.changes w.database

/-- Puts the reply of a database into the world. -/
def reply {α : Type} (w : World) (r : Retry.Reply Database α) : Retry.Reply World α where
  result := r.result
  takes := r.takes
  fires := r.fires
  yields := r.yields
  after := { w with database := r.after }
  abandoned := { w with database := r.abandoned }

end World

/-- Payroll on the database of a world. -/
def host (s : Payroll.Surroundings) : Host World (List Payroll.Application) where
  clock := s.clock
  zone := s.zone
  calls := {
    ping := fun t w =>
      let w := w.upTo t
      w.reply ((Payroll.host s).ping t w.database)
    attempt := fun t w =>
      let w := w.upTo t
      w.reply ((Payroll.host s).attempt t w.database)
    timers := s.timers }

namespace Trace

/-- The database at a time, given the one at the start. -/
def databaseAt {α : Type} (trace : Trace World α) (start : Database) (t : Duration) : Database :=
  match (trace.cycles.filter (·.ended.time ≤ t)).getLast? with
  | none => start
  | some cycle => cycle.ended.world.database

/-- The end of the first cycle that leaves a database of a kind. -/
def firstEnd? {α : Type} (trace : Trace World α) (p : Database → Bool) : Option Duration :=
  (trace.cycles.find? fun cycle => p cycle.ended.world.database).map (·.ended.time)

/-- The database after the last cycle and all changes. -/
def final {α : Type} (trace : Trace World α) : Database := trace.moment.world.settled

end Trace

/-- At most `n` cycles of a scheduler that starts on a database and is stopped at a time. -/
def observe (s : Payroll.Surroundings) (p : PayrollSettings) (n : Nat) (w : World)
    (stop : Option Duration) : Trace World (List Payroll.Application) :=
  run (host s) p n ⟨0, stop, w⟩

end Paymaster.Scheduler
