import Paymaster.Payroll.Attempt
import Paymaster.Config.Settings

/-
  The payroll scheduler: it waits, runs one cycle of attempts, and works out when to wake next.
  After a warm-up the first cycle runs. A cycle that completed is followed by the first instant of
  the next local month, measured on the clock after the cycle; one that failed by a short delay.
  The token stops the scheduler while it waits and between cycles, and within a cycle as the
  cycle itself allows. The waits are on the timers that the cycles use.
-/

namespace Paymaster.Scheduler

inductive State
  | idle
  | waiting (wake : Instant)
  | running
  | cancelled
deriving DecidableEq, Repr

/-- The instant `d` after `now`; `now` itself if there is none. -/
def after (now : Instant) (d : Duration) : Instant := (now.after? d).getD now

/-- When to wake after a cycle that ended when the clock showed `now`. -/
def nextWake {α : Type} (s : PayrollSettings) (z : Zone) (now : Instant) :
    Retry.Outcome α → Instant
  | .completed _ =>
    match Calendar.nextMonthStart z now with
    | .ok t => t
    | .error _ => after now s.failureRetry
  | .failed .. => after now s.failureRetry
  | .cancelled => now

/-- What a scheduler works with: a wall clock, its zone, and what each cycle calls. -/
structure Host (σ α : Type) where
  clock : Duration → Instant
  zone : Zone
  calls : Retry.Host σ α

/-- The record of a cycle. -/
structure Cycle (σ α : Type) where
  began : Duration
  outcome : Retry.Outcome α
  /-- The moment at which the cycle ended. -/
  ended : Retry.Moment σ
  next : Instant

/-- What a scheduler did: its cycles in order, and where it is after them. -/
structure Trace (σ α : Type) where
  cycles : List (Cycle σ α)
  state : State
  moment : Retry.Moment σ

variable {σ α : Type}

/-- At most `n` cycles, the first one at `wake`. -/
def cycles (h : Host σ α) (s : PayrollSettings) :
    Nat → Instant → Retry.Moment σ → Trace σ α
  | 0, wake, m => ⟨[], .waiting wake, m⟩
  | n + 1, wake, m =>
    match m.wait (h.calls.timers.lasts ((h.clock m.time).lapse wake)) with
    | .cancelled m => ⟨[], .cancelled, m⟩
    | .going () m =>
      let (outcome, ended) := Retry.run h.calls s.policy m
      let next := nextWake s h.zone (h.clock ended.time) outcome
      let cycle := ⟨m.time, outcome, ended, next⟩
      if ended.isCancelled then ⟨[cycle], .cancelled, ended⟩
      else
        let rest := cycles h s n next ended
        { rest with cycles := cycle :: rest.cycles }

/-- The scheduler from its start, for at most `n` cycles. -/
def run (h : Host σ α) (s : PayrollSettings) (n : Nat) (m : Retry.Moment σ) : Trace σ α :=
  cycles h s n (after (h.clock m.time) s.warmup) m

end Paymaster.Scheduler
