import Paymaster.Error.Basic

/-
  How often and how long a cycle of attempts tries, and how it can end.
-/

namespace Paymaster.Retry

structure Policy where
  /-- The wait before each attempt; there are as many attempts as waits. -/
  backoffs : List Duration
  /-- The bound on each ping. -/
  pingTimeout : Duration
  /-- The bound on each attempt. -/
  attemptTimeout : Duration
deriving DecidableEq, Repr

namespace Policy

def standard : Policy where
  backoffs := [0, .ofMillis 750, .ofMillis 2000]
  pingTimeout := .ofMillis 3000
  attemptTimeout := .ofMillis 10000

/-- The waits of a cycle; without any there is one immediate attempt. -/
def schedule (p : Policy) : List Duration := if p.backoffs.isEmpty then [0] else p.backoffs

theorem schedule_ne_nil (p : Policy) : p.schedule ≠ [] := by
  unfold schedule
  split
  · simp
  · rename_i h
    simpa using h

end Policy

/-- How a cycle ended. -/
inductive Outcome (α : Type)
  | completed (value : α)
  /-- Every attempt failed, or one failed for good; `attempts` counts the rounds begun. -/
  | failed (cause : Error) (attempts : Nat)
  | cancelled
deriving DecidableEq, Repr

/-- The value of a cycle that completed; a cancelled one counts as an error of that name. -/
def Outcome.toExcept {α : Type} : Outcome α → Except Error α
  | completed value => .ok value
  | failed cause _ => .error cause
  | cancelled => .error .cancelled

end Paymaster.Retry
