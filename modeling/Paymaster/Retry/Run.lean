import Paymaster.Retry.Policy

/-
  A cycle of attempts, on a clock that counts from its start.
  Model (read this before the definitions). A call is known by its `Reply`: how long it takes,
  what it gives, whether it fires the cancellation token itself, and what it leaves of the world,
  also when it is cut short. A `Moment` holds the time, the instant at which the token fires (past
  or to come), and the world. Waiting and pinging stop when the token fires, at that instant; an
  attempt runs to its own end or to its bound. A ping that ends at the very instant at which the
  token fires counts as ended, unless the reply `yields`: then the token is seen first. The waits
  before the rounds and the bounds are timers of the runtime, of which no more is known than
  `Timers` says; that none ends early (`Timers.Punctual`) is assumed where it is needed.

  One round waits, looks at the token, pings, and attempts. A failed ping and a transient failure
  lead to the next round; any other end of an attempt ends the cycle.
-/

namespace Paymaster.Retry

/-- When a call fires the token itself. -/
inductive Firing
  | atStart
  | atEnd
deriving DecidableEq, Repr

/-- All that there is to know of a call. -/
structure Reply (σ α : Type) where
  result : Except Error α
  takes : Duration
  fires : Option Firing := none
  /-- Whether the token goes first when it fires at the instant at which the call ends. -/
  yields : Bool := false
  /-- The world once the call has ended. -/
  after : σ
  /-- The world if the call is abandoned before its end. -/
  abandoned : σ

/-- The timers of the runtime. -/
structure Timers where
  /-- How long a timer runs that is set for a span. -/
  lasts : Duration → Duration
  /-- A timer ends at once just if it is set for nothing. -/
  lasts_eq_zero : ∀ d, lasts d = 0 ↔ d = 0

namespace Timers

/-- Timers that run for just the spans that they are set for. -/
def exact : Timers := ⟨fun d => d, fun _ => Iff.rfl⟩

/-- No timer ends before the span that it is set for has passed. -/
def Punctual (timers : Timers) : Prop := ∀ d, d ≤ timers.lasts d

end Timers

/-- What a cycle calls, given the time and the world, and the timers that it waits on. -/
structure Host (σ α : Type) where
  ping : Duration → σ → Reply σ Unit
  attempt : Duration → σ → Reply σ α
  timers : Timers := .exact

structure Moment (σ : Type) where
  time : Duration
  /-- When the token fires. -/
  fires : Option Duration
  world : σ

/-- Where a wait or a call leads: on to the next step, or to the end because the token fired. -/
inductive Progress (σ β : Type)
  | going (value : β) (m : Moment σ)
  | cancelled (m : Moment σ)

variable {σ α : Type}

namespace Moment

def isCancelled (m : Moment σ) : Bool :=
  match m.fires with
  | none => false
  | some f => f ≤ m.time

/-- Fires the token at `t`, if it has not fired before. -/
def fireAt (t : Duration) (m : Moment σ) : Moment σ :=
  { m with fires := some (match m.fires with
      | none => t
      | some f => min f t) }

/-- Waits for `d`, then looks at the token. -/
def wait (m : Moment σ) (d : Duration) : Progress σ Unit :=
  match m.fires with
  | none => .going () { m with time := m.time + d }
  | some f =>
    if f ≤ m.time + d then .cancelled { m with time := max m.time f }
    else .going () { m with time := m.time + d }

end Moment

namespace Reply

/-- The call ends no later than a timer that runs for `lasts`. -/
def inTime (r : Reply σ α) (lasts : Duration) : Bool := r.takes ≤ lasts

/-- What a call gives under a bound whose timer runs for `lasts`. -/
def bounded (r : Reply σ α) (operation : String) (limit lasts : Duration) : Except Error α :=
  if r.inTime lasts then r.result else .error (.timeout operation limit)

/-- The moment at which a call ends under a bound whose timer runs for `lasts`. -/
def finish (r : Reply σ α) (lasts : Duration) (m : Moment σ) : Moment σ :=
  let m := if r.fires = some .atStart then m.fireAt m.time else m
  if r.inTime lasts then
    let m := { m with time := m.time + r.takes, world := r.after }
    if r.fires = some .atEnd then m.fireAt m.time else m
  else { m with time := m.time + lasts, world := r.abandoned }

/-- When the token is seen to fire before a call ends that waits for `lasts`. -/
def interruption (r : Reply σ α) (lasts : Duration) (m : Moment σ) : Option Duration :=
  if r.fires = some .atStart ∧ 0 < lasts then some m.time
  else
    m.fires.filter fun f =>
      f < m.time + lasts || (f = m.time + lasts && r.yields)

end Reply

/-- Pings under the bound; the token interrupts it. -/
def ping (host : Host σ α) (limit : Duration) (m : Moment σ) : Progress σ (Except Error Unit) :=
  let r := host.ping m.time m.world
  let lasts := host.timers.lasts limit
  match r.interruption (min r.takes lasts) m with
  | some f =>
    let m := if r.fires = some .atStart then m.fireAt m.time else m
    .cancelled { m with time := max m.time f, world := r.abandoned }
  | none => .going (r.bounded "database ping" limit lasts) (r.finish lasts m)

/-- Attempts under the bound; nothing else interrupts it. -/
def attempt (host : Host σ α) (limit : Duration) (m : Moment σ) : Except Error α × Moment σ :=
  let r := host.attempt m.time m.world
  let lasts := host.timers.lasts limit
  (r.bounded "payroll attempt" limit lasts, r.finish lasts m)

/-- The rounds that are left, from round `number` on, given the error of the round before. -/
def rounds (host : Host σ α) (p : Policy) :
    List Duration → Nat → Option Error → Moment σ → Outcome α × Moment σ
  | [], _, last, m =>
    (.failed (last.getD (.unavailable "no attempts were made")) p.schedule.length, m)
  | d :: ds, number, _, m =>
    match m.wait (host.timers.lasts d) with
    | .cancelled m => (.cancelled, m)
    | .going () m =>
      match ping host p.pingTimeout m with
      | .cancelled m => (.cancelled, m)
      | .going (.error e) m => rounds host p ds (number + 1) (some (.unavailable e.message)) m
      | .going (.ok ()) m =>
        match attempt host p.attemptTimeout m with
        | (.ok value, m) => (.completed value, m)
        | (.error e, m) =>
          match e.kind with
          | .transient => rounds host p ds (number + 1) (some e) m
          | .cancelled => (.cancelled, m)
          | .permanent => (.failed e number, m)

/-- A whole cycle. -/
def run (host : Host σ α) (p : Policy) (m : Moment σ) : Outcome α × Moment σ :=
  rounds host p p.schedule 1 none m

end Paymaster.Retry
