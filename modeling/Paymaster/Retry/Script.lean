import Paymaster.Retry.Run

/-
  Calls that follow a script: the next call of each kind is read off a list, the last one again
  and again, and every call is logged with the time of its start.
-/

namespace Paymaster.Retry

/-- One scripted call. -/
structure Call (α : Type) where
  result : Except Error α
  takes : Duration := 0
  fires : Option Firing := none

inductive CallKind
  | ping
  | attempt
deriving DecidableEq, Repr

structure Script (α : Type) where
  pings : List (Call Unit)
  attempts : List (Call α)
  /-- The calls made so far, the latest first. -/
  log : List (CallKind × Duration) := []

namespace Script

variable {α : Type}

/-- The next call, and the calls after it; the last call stays. -/
def next {β : Type} (idle : β) : List (Call β) → Call β × List (Call β)
  | [] => ({ result := .ok idle }, [])
  | [c] => (c, [c])
  | c :: c' :: cs => (c, c' :: cs)

def Call.reply {β : Type} (c : Call β) (world : Script α) : Reply (Script α) β where
  result := c.result
  takes := c.takes
  fires := c.fires
  after := world
  abandoned := world

/-- Follows the script; a call that is not scripted succeeds at once with `idle`. -/
def host (idle : α) : Host (Script α) α where
  ping t s :=
    let (c, rest) := next () s.pings
    Call.reply c { s with pings := rest, log := (.ping, t) :: s.log }
  attempt t s :=
    let (c, rest) := next idle s.attempts
    Call.reply c { s with attempts := rest, log := (.attempt, t) :: s.log }

end Script

end Paymaster.Retry
