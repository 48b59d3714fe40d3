import Paymaster.Proofs.Calendar.SetBack
import Paymaster.Proofs.Scheduler.Delays

/-
  Whether the scheduler rests after a payroll.
  Model (read this before the theorems). After a cycle that completed the scheduler reads the clock,
  works out the start of the month that follows, and waits for it. If that start lies ahead of the
  reading, time passes before the next cycle begins; if it has passed, the next cycle begins at the
  very moment at which the last one ended (`Cycle.Rests`).

  The start lies ahead but for one case: the local clock was set back over the end of the month, and
  shows the old month once more (`rests_unless_setBack`). As long as it does, cycle follows cycle
  without a rest (`repeats_in_second_evening`).
-/

namespace Paymaster.Scheduler

open Calendar

variable {σ α : Type}

/-- What follows a cycle that completed, if `start` was found as the start of the next month. -/
structure Cycle.Rests (h : Host σ α) (start : Instant) (c c' : Cycle σ α) : Prop where
  /-- The scheduler waits for the start that was found. -/
  next : c.next = start
  /-- If the clock was set back to before it, the next cycle begins at once. -/
  repeats : h.zone.SetBack start (h.clock c.ended.time) → c'.began = c.ended.time
  /-- If not, the scheduler waits for what lies ahead, and some time passes on a clock that shows no
  leap second. -/
  waits : ¬h.zone.SetBack start (h.clock c.ended.time) → h.clock c.ended.time < c.next ∧
    (¬(h.clock c.ended.time).isLeapSecond → c.ended.time < c'.began)

theorem lapse_eq_zero {now wake : Instant} (whole : wake.nanos = 0) (passed : wake ≤ now) :
    now.lapse wake = 0 := by
  have seconds := seconds_le_of_le passed
  have regular := not_isLeapSecond_of_whole whole
  unfold Instant.lapse
  rw [whole]
  show (_ : Int).toNat = (0 : Nat)
  split
  · -- A leap second that is counted has begun, so that its nanoseconds make up for it.
    rename_i leap
    have begun : 1000000000 ≤ now.nanos := of_decide_eq_true leap.1
    omega
  · rw [if_neg fun leap => regular leap.1]
    omega

theorem lapse_pos {now wake : Instant} (whole : wake.nanos = 0) (ahead : now < wake)
    (regular : ¬now.isLeapSecond) : 0 < now.lapse wake := by
  have seconds := (lt_iff_of_nanos_eq_zero whole).1 ahead
  have within := Instant.nanos_lt_of_regular regular
  rw [Instant.lapse_of_regular regular (not_isLeapSecond_of_whole whole), whole]
  show (0 : Nat) < (_ : Int).toNat
  omega

theorem lasts_pos (timers : Retry.Timers) {d : Duration} (h : 0 < d) : 0 < timers.lasts d :=
  Nat.pos_of_ne_zero fun ends => h.ne' ((timers.lasts_eq_zero d).1 ends)

/-- In every zone: the start of the month that follows lies ahead of the instant that asks, unless
the local clock was set back between the two, by a change of the offset. And in every execution,
whatever the calls give and however long they take: a cycle that completed is followed by a rest,
unless the clock was set back so; then the next cycle begins at once. -/
theorem rests_unless_setBack (h : Host σ α) (s : PayrollSettings) (n : Nat) (m : Retry.Moment σ) :
    (∀ (z : Zone) (now start : Instant), nextMonthStart z now = .ok start →
      (now < start ↔ ¬z.SetBack start now) ∧
      (z.SetBack start now → z.offsetAt now < z.offsetAt start ∧
        ∃ change ∈ z.changes, start < change.1 ∧ change.1 ≤ now)) ∧
    (run h s n m).cycles.IsChain fun c c' => ∀ v start, c.outcome = .completed v →
      nextMonthStart h.zone (h.clock c.ended.time) = .ok start → c.Rests h start c' := by
  refine ⟨fun z now start found => ⟨lt_nextMonthStart_iff_not_setBack found, fun back =>
    back.exists_change⟩, ?_⟩
  refine (isChain_began h s n _ m).imp_of_mem_imp fun c c' hc _ began v start completed found => ?_
  have next : c.next = start := by
    rw [(ended_of_mem hc).2, completed]
    exact (nextWake_completed s h.zone _ v).1 start found
  have whole := (localSeconds_lt_nextMonthStart found).1
  rw [next] at began
  refine ⟨next, fun back => ?_, fun steady => ?_⟩
  · rw [began, lapse_eq_zero whole back.1, (h.calls.timers.lasts_eq_zero 0).2 rfl]
    rfl
  · have ahead := (lt_nextMonthStart_iff_not_setBack found).2 steady
    rw [next]
    refine ⟨ahead, fun regular => ?_⟩
    rw [began]
    exact Nat.lt_add_of_pos_right (lasts_pos _ (lapse_pos whole ahead regular))

/-! ## A midnight that is shown twice -/

/-- A zone in which clocks go back by an hour at half past midnight on the first of a November. -/
def repeatsMidnight : Zone := ⟨3600, [({ seconds := 1730417400, nanos := 0 }, 0)]⟩

/-- A quarter of an hour after the change, at a quarter to midnight on the last of October again. -/
def secondEvening : Instant := { seconds := 1730418300, nanos := 0 }

/-- Two cycles of a scheduler whose clock goes on from there. -/
def evening : Trace World (List Payroll.Application) :=
  run (host { steady secondEvening with zone := repeatsMidnight }) {} 2
    ⟨0, none, { database := .live { store := oneBudget } }⟩

/-- What the first of them pays. -/
def paidInOctober : List Payroll.Application :=
  [⟨1, "rent", ⟨100⟩, none, { seconds := 1730418303, nanos := 0 }⟩]

/-- There the month that follows may have started already, and a cycle that completed may be
followed by the next one at once. -/
theorem repeats_in_second_evening :
    (¬∀ (z : Zone) (now start : Instant), z.changes.Pairwise (·.1 < ·.1) →
      nextMonthStart z now = .ok start → now < start) ∧
    ¬∀ (now : Instant) (z : Zone) (s : PayrollSettings) (n : Nat) (m : Retry.Moment World),
      z.changes.Pairwise (·.1 < ·.1) →
      (run (host { steady now with zone := z }) s n m).cycles.IsChain fun c c' =>
        ∀ report, c.outcome = .completed report → c.ended.time < c'.began := by
  constructor
  · intro ahead
    have found : nextMonthStart repeatsMidnight secondEvening =
        .ok { seconds := 1730415600, nanos := 0 } := by decide +kernel
    have before := ahead _ _ _ (List.pairwise_singleton _ _) found
    exact absurd before (by decide)
  · intro rests
    have chain : evening.cycles.IsChain fun c c' =>
        ∀ report, c.outcome = .completed report → c.ended.time < c'.began :=
      rests _ _ _ _ _ (List.pairwise_singleton _ _)
    have rest := List.isChain_iff_getElem.1 chain 0 (by decide +kernel) paidInOctober
      (by decide +kernel)
    revert rest
    decide +kernel

end Paymaster.Scheduler
