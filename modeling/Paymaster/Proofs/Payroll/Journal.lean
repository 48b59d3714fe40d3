import Paymaster.Payroll.Attempt
import Paymaster.Proofs.AutoBalance.Replacement
import Paymaster.Proofs.Payroll.Runs
import Paymaster.Proofs.Retry.Log

/-
  Histories of a database, with a journal of what was posted.
  Model (read this before the theorems). A transaction is a run of payroll, for all budgets or for
  one, or the replacement of a configuration. It is committed, or rolled back, or committed while
  its caller is told that it failed (`Fate`); a caller who tries again makes another transaction.
  The journal keeps every entry that a transaction added to the ledger, with the clock of the
  transaction and whether it was forced, in the order of the commits. A history (`History`) is any
  sequence of transactions and of whole cycles of retried runs. A cycle may be served in any way
  that leaves behind what transactions leave (`Serves`): its calls last, fail and are cut short as
  they may, each attempt reads the clock anew, and others may work on the database meanwhile.

  The cycles of `runWithRetry` are among them (`serves_journaled`), and keeping the journal changes
  nothing in them (`runWithRetry_journaled`).
-/

namespace Paymaster.Payroll

/-- An instant with at least a year of instants before and after it. -/
structure ClockReading where
  instant : Instant
  year_before : Calendar.firstSecond + 31536000 ≤ instant.seconds := by decide
  year_after : instant.seconds + 31536000 ≤ Calendar.lastSecond := by decide

inductive Transaction
  | payroll (run : Run) (now : ClockReading)
  | configure (budget : BudgetId) (actor : Option UserId) (c : AutoBalance.Configuration)
    (now : Instant)

namespace Transaction

def run (z : Zone) : Transaction → LedgerM (List Application)
  | payroll run now => run.report z now.instant
  | configure budget actor c now => do
    AutoBalance.replace budget actor c.enabled c.sources now
    pure []

def now : Transaction → Instant
  | payroll _ now => now.instant
  | configure _ _ _ now => now

def isForced : Transaction → Bool
  | payroll run _ => run.isForced
  | configure .. => false

end Transaction

/-- What becomes of a transaction. -/
inductive Fate
  | committed
  | rolledBack (e : Error)
  /-- It is committed, and its caller is told of an error. -/
  | misreported (e : Error)

/-- An entry that was committed, with the clock of its transaction. -/
structure Posting where
  now : Instant
  forced : Bool
  entry : Entry
deriving DecidableEq

structure Journal where
  database : Database
  postings : List Posting := []

def entriesOf (db : Database) : List Entry := (db.store?.map (·.entries)).getD []

namespace Journal

/-- The journal once a transaction has left the database `db`. -/
def note (j : Journal) (now : Instant) (forced : Bool) (db : Database) : Journal :=
  ⟨db, j.postings ++
    ((entriesOf db).drop (entriesOf j.database).length).map fun e => ⟨now, forced, e⟩⟩

def commit (z : Zone) (x : Transaction) (j : Journal) :
    Except Failure (List Application) × Journal :=
  let (result, db) := (x.run z).run j.database
  (result, j.note x.now x.isForced db)

/-- What a transaction reports, and the journal after it. -/
def act (z : Zone) (x : Transaction) (fate : Fate) (j : Journal) :
    Except Failure (List Application) × Journal :=
  match fate with
  | .committed => j.commit z x
  | .rolledBack e => (.error (.error e), j)
  | .misreported e => (.error (.error e), (j.commit z x).2)

/-- The journal after one transaction after the other. -/
def perform (z : Zone) (xs : List (Transaction × Fate)) (j : Journal) : Journal :=
  xs.foldl (fun j x => (j.act z x.1 x.2).2) j

theorem perform_append (z : Zone) (xs ys : List (Transaction × Fate)) (j : Journal) :
    j.perform z (xs ++ ys) = (j.perform z xs).perform z ys := by
  rw [perform, List.foldl_append]
  rfl

end Journal

/-! ## Cycles and histories -/

/-- From journal `j` transactions of anybody lead to `k`. -/
def Leads (z : Zone) (j k : Journal) : Prop := ∃ xs, k = j.perform z xs

/-- From journal `j` transactions of anybody, the last of them a monthly run, lead to `k`. -/
def Attempts (z : Zone) (j k : Journal) : Prop :=
  ∃ xs now fate, k = ((j.perform z xs).act z (.payroll .monthly now) fate).2

/-- What each call of the host leaves of the journal, whether it ends or is abandoned: a ping what
others did, an attempt what others did and a monthly run. -/
structure Serves {σ : Type} (z : Zone) (journal : σ → Journal)
    (host : Retry.Host σ (List Application)) : Prop where
  ping : ∀ t w, Leads z (journal w) (journal (host.ping t w).after) ∧
    Leads z (journal w) (journal (host.ping t w).abandoned)
  attempt : ∀ t w, Attempts z (journal w) (journal (host.attempt t w).after) ∧
    Attempts z (journal w) (journal (host.attempt t w).abandoned)

/-- The journals to which transactions and cycles lead from a database. -/
inductive History (z : Zone) (db : Database) : Journal → Prop
  | start : History z db { database := db }
  | transaction (x : Transaction) (fate : Fate) {j : Journal} :
    History z db j → History z db (j.act z x fate).2
  | cycle {σ : Type} {journal : σ → Journal} {host : Retry.Host σ (List Application)}
    (serves : Serves z journal host) (p : Retry.Policy) (m : Retry.Moment σ) :
    History z db (journal m.world) → History z db (journal (Retry.run host p m).2.world)

theorem Attempts.leads {z : Zone} {j k : Journal} (h : Attempts z j k) : Leads z j k := by
  obtain ⟨xs, now, fate, rfl⟩ := h
  refine ⟨xs ++ [(.payroll .monthly now, fate)], ?_⟩
  rw [Journal.perform_append]
  rfl

theorem Leads.trans {z : Zone} {i j k : Journal} (h : Leads z i j) (h' : Leads z j k) :
    Leads z i k := by
  obtain ⟨xs, rfl⟩ := h
  obtain ⟨ys, rfl⟩ := h'
  exact ⟨xs ++ ys, (Journal.perform_append z xs ys i).symm⟩

/-- A whole cycle leaves behind what transactions leave. -/
theorem Serves.leads {σ : Type} {z : Zone} {journal : σ → Journal}
    {host : Retry.Host σ (List Application)} (h : Serves z journal host) (p : Retry.Policy)
    (m : Retry.Moment σ) : Leads z (journal m.world) (journal (Retry.run host p m).2.world) := by
  have keeps : Retry.Keeps host p fun m' => Leads z (journal m.world) (journal m'.world) :=
    Retry.Keeps.of_world
      (P := fun w => Leads z (journal m.world) (journal w))
      (fun t w led => ⟨led.trans (h.ping t w).1, led.trans (h.ping t w).2⟩)
      (fun t w led => ⟨led.trans (h.attempt t w).1.leads, led.trans (h.attempt t w).2.leads⟩) p
  exact keeps.of_run ⟨[], rfl⟩

/-- A property that every transaction keeps holds along a history. -/
theorem History.induct {z : Zone} {db : Database} {P : Journal → Prop}
    (start : P { database := db }) (step : ∀ x fate j, P j → P (j.act z x fate).2) {j : Journal}
    (h : History z db j) : P j := by
  have run (xs : List (Transaction × Fate)) (j : Journal) (hj : P j) : P (j.perform z xs) := by
    induction xs generalizing j with
    | nil => exact hj
    | cons x xs ih => exact ih _ (step x.1 x.2 j hj)
  induction h with
  | start => exact start
  | transaction x fate _ ih => exact step x fate _ ih
  | cycle serves p m _ ih =>
    obtain ⟨xs, led⟩ := serves.leads p m
    rw [led]
    exact run xs _ ih

/-! ## The cycles of `runWithRetry` -/

/-- The database of a monthly run with retries, with a journal beside it. -/
def journaled (s : Surroundings) : Retry.Host Journal (List Application) where
  ping t j := ((host s).ping t j.database).map fun db => { j with database := db }
  attempt t j := ((host s).attempt t j.database).map (j.note (s.clock t) false)
  timers := s.timers

theorem mirrors_journaled (s : Surroundings) :
    Retry.Mirrors Journal.database (journaled s) (host s) where
  ping _ _ := rfl
  attempt _ _ := rfl
  timers := rfl

/-- Keeping the journal changes nothing in a cycle. -/
theorem runWithRetry_journaled (s : Surroundings) (p : Retry.Policy) (m : Retry.Moment Journal) :
    runWithRetry s p (m.map Journal.database) =
      ((Retry.run (journaled s) p m).1, (Retry.run (journaled s) p m).2.map Journal.database) :=
  (mirrors_journaled s).run p m

theorem note_self (j : Journal) (now : Instant) (forced : Bool) :
    j.note now forced j.database = j := by
  simp [Journal.note]

/-- A call on a database leaves what its operation leaves, or nothing if it is abandoned. -/
theorem world_answer {α : Type} (latency : Duration) (m : LedgerM α) (db : Database) :
    (answer latency m db).after = (m.run db).2 ∧ (answer latency m db).abandoned = db := by
  unfold answer
  rcases m.run db with ⟨_ | _, _⟩ <;> exact ⟨rfl, rfl⟩

theorem run_ping (db : Database) : (LedgerM.ping.run db).2 = db := by
  cases db <;> rfl

theorem serves_journaled {s : Surroundings} (readings : Duration → ClockReading)
    (clock : ∀ t, s.clock t = (readings t).instant) : Serves s.zone id (journaled s) where
  ping t j := by
    obtain ⟨after, abandoned⟩ := world_answer s.latency LedgerM.ping j.database
    have ended : ((journaled s).ping t j).after = j := by
      show { j with database := (answer s.latency LedgerM.ping j.database).after } = j
      rw [after, run_ping]
    have left : ((journaled s).ping t j).abandoned = j := by
      show { j with database := (answer s.latency LedgerM.ping j.database).abandoned } = j
      rw [abandoned]
    rw [ended, left]
    exact ⟨⟨[], rfl⟩, ⟨[], rfl⟩⟩
  attempt t j := by
    obtain ⟨after, abandoned⟩ :=
      world_answer s.latency (monthlyReport s.zone (s.clock t)) j.database
    have ended : ((journaled s).attempt t j).after =
        (j.act s.zone (.payroll .monthly (readings t)) .committed).2 := by
      show j.note (s.clock t) false (answer s.latency _ j.database).after = _
      rw [after, clock]
      rfl
    have left : ((journaled s).attempt t j).abandoned = j := by
      show j.note (s.clock t) false (answer s.latency _ j.database).abandoned = j
      rw [abandoned, note_self]
    refine ⟨⟨[], readings t, .committed, ended⟩, ⟨[], readings t, .rolledBack .cancelled, ?_⟩⟩
    exact left

end Paymaster.Payroll
