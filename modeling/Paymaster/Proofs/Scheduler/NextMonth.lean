import Paymaster.Scheduler.Timeline
import Paymaster.Proofs.Retry.Log
import Paymaster.Proofs.Calendar.MonthStarts

/-
  When the scheduler wakes after a payroll.
  The attempt that pays reads the clock when it begins, and so settles which month is paid; the
  next wake-up is worked out from the clock as it stands when the cycle has ended. Both readings
  lie in one month, or the cycle ran over the end of the month that it paid. In the first case the
  scheduler wakes with the month that follows; in the second it wakes a whole month later
  (`next_after_completed`). So the month that begins during a cycle is passed over
  (`month_passed_over`).
-/

namespace Paymaster.Scheduler

open Calendar

variable {σ τ α : Type}

/-! ## Cycles on record -/

/-- The host with its calls on record. -/
def Host.logged (h : Host σ α) : Host (Retry.Logged σ) α := ⟨h.clock, h.zone, h.calls.logged⟩

def Cycle.map (f : τ → σ) (c : Cycle τ α) : Cycle σ α := ⟨c.began, c.outcome, c.ended.map f, c.next⟩

def Trace.map (f : τ → σ) (trace : Trace τ α) : Trace σ α :=
  ⟨trace.cycles.map (Cycle.map f), trace.state, trace.moment.map f⟩

theorem cycles_logged (h : Host σ α) (s : PayrollSettings) (n : Nat) (wake : Instant)
    (m : Retry.Moment (Retry.Logged σ)) :
    cycles h s n wake (m.map Retry.Logged.world) =
      (cycles h.logged s n wake m).map Retry.Logged.world := by
  induction n generalizing wake m with
  | zero => rfl
  | succ n ih =>
    have clock : h.logged.clock = h.clock := rfl
    have zone : h.logged.zone = h.zone := rfl
    have time : (m.map Retry.Logged.world).time = m.time := rfl
    have timers : h.logged.calls.timers = h.calls.timers := rfl
    rw [cycles, cycles, Retry.wait_map, clock, zone, time, timers]
    rcases m.wait (h.calls.timers.lasts ((h.clock m.time).lapse wake)) with ⟨u, m₁⟩ | m₁ <;>
      dsimp only [Retry.Progress.map]
    · rw [Retry.run_logged, show h.logged.calls = h.calls.logged from rfl]
      rcases Retry.run h.calls.logged s.policy m₁ with ⟨outcome, ended⟩
      dsimp only
      have stops : (ended.map Retry.Logged.world).isCancelled = ended.isCancelled := rfl
      have ends : (ended.map Retry.Logged.world).time = ended.time := rfl
      rw [stops, ends]
      split
      · rfl
      · rw [ih]
        rfl
    · rfl

/-- Keeping a log changes nothing in what a scheduler does. -/
theorem run_logged (h : Host σ α) (s : PayrollSettings) (n : Nat)
    (m : Retry.Moment (Retry.Logged σ)) :
    run h s n (m.map Retry.Logged.world) = (run h.logged s n m).map Retry.Logged.world :=
  cycles_logged h s n _ m

/-- A recorded cycle is a run of attempts from its beginning, and the next wake-up is worked out
at its end. -/
theorem mem_cycles {h : Host σ α} {s : PayrollSettings} {n : Nat} {wake : Instant}
    {m : Retry.Moment σ} {c : Cycle σ α} (hc : c ∈ (cycles h s n wake m).cycles) :
    ∃ start : Retry.Moment σ, start.time = c.began ∧
      Retry.run h.calls s.policy start = (c.outcome, c.ended) ∧
        c.next = nextWake s h.zone (h.clock c.ended.time) c.outcome := by
  induction n generalizing wake m with
  | zero => cases hc
  | succ n ih =>
    rw [cycles] at hc
    split at hc
    · cases hc
    · rename_i start _
      dsimp only at hc
      split at hc
      · obtain rfl := List.mem_singleton.1 hc
        exact ⟨start, rfl, rfl, rfl⟩
      · rcases List.mem_cons.1 hc with rfl | hc
        · exact ⟨start, rfl, rfl, rfl⟩
        · exact ih hc

/-! ## The next wake-up -/

theorem le_after (now : Instant) (d : Duration) : now ≤ after now d := by
  show now.rank ≤ (after now d).rank
  unfold after Instant.after?
  have := now.nanos_lt
  split
  · rename_i leap
    unfold Instant.of?
    split
    · simp only [Option.getD_some, Instant.rank, Instant.rankOf]
      omega
    · exact Int.le_refl _
  · rename_i not_leap
    simp only [Instant.isLeapSecond, decide_eq_true_eq] at not_leap
    unfold Instant.of?
    dsimp only
    split
    · simp only [Option.getD_some, Instant.rank, Instant.rankOf]
      omega
    · exact Int.le_refl _

theorem nextWake_completed (s : PayrollSettings) (z : Zone) (now : Instant) (v : α) :
    (∀ later, nextMonthStart z now = .ok later → nextWake s z now (.completed v) = later) ∧
      ∀ e, nextMonthStart z now = .error e →
        nextWake s z now (.completed v) = after now s.failureRetry := by
  unfold nextWake
  constructor
  · intro later found
    rw [found]
  · intro e none
    rw [none]

/-- An instant is before the start of the month that follows its own. -/
theorem lt_nextMonthStart {offset : Int} {t start : Instant}
    (h : nextMonthStart (.fixed offset) t = .ok start) : t < start :=
  (lt_nextMonthStart_iff h t).2 (Int.le_refl _)

/-- As long as the month that follows has not begun, it is the same one that follows. -/
theorem nextMonthStart_eq_of_lt {offset : Int} {t u start : Instant} (onward : t ≤ u)
    (h : nextMonthStart (.fixed offset) t = .ok start) (before : u < start) :
    nextMonthStart (.fixed offset) u = .ok start := by
  have later := index_monthAt_le offset onward
  have earlier := (lt_nextMonthStart_iff h u).1 before
  have same : monthAt (.fixed offset) u = monthAt (.fixed offset) t :=
    Month.eq_of_index_eq (by omega)
  rw [nextMonthStart_eq, same, ← nextMonthStart_eq]
  exact h

variable {h : Host σ α} {s : PayrollSettings} {offset : Int}

/-- In a zone of constant offset, on a clock that never goes back: a cycle that completed ended
with the attempt that its log names last. Let `start` be the start of the month after the one in
which that attempt read the clock. If the clock has not reached `start` when the cycle ends, the
scheduler wakes at `start`. If it has, the scheduler wakes with the month after the one that the
clock then shows, and so later than `start`. -/
theorem next_after_completed (zone : h.zone = .fixed offset)
    (onward : ∀ t u : Duration, t ≤ u → h.clock t ≤ h.clock u) (n : Nat)
    (m : Retry.Moment (Retry.Logged σ)) {c : Cycle (Retry.Logged σ) α}
    (hc : c ∈ (run h.logged s n m).cycles) {v : α} (completed : c.outcome = .completed v) :
    ∃ t, c.ended.world.log.getLast? = some (.attempt, t) ∧ c.began ≤ t ∧ t ≤ c.ended.time ∧
      ∀ start, nextMonthStart h.zone (h.clock t) = .ok start →
        (h.clock c.ended.time < start → c.next = start) ∧
        (start ≤ h.clock c.ended.time → start ≤ c.next ∧
          ∀ later, nextMonthStart h.zone (h.clock c.ended.time) = .ok later →
            c.next = later ∧ start < later) := by
  obtain ⟨first, began, ran, next⟩ := mem_cycles hc
  have done : (Retry.run h.calls.logged s.policy first).1 = .completed v := by
    rw [← completed]
    exact congrArg Prod.fst ran
  have ended : (Retry.run h.calls.logged s.policy first).2 = c.ended := congrArg Prod.snd ran
  obtain ⟨t, last, begun, within⟩ := Retry.exists_last_attempt done
  rw [ended] at last within
  rw [began] at begun
  refine ⟨t, last, begun, within, fun start following => ?_⟩
  have reading := onward t c.ended.time within
  have next : c.next = nextWake s h.zone (h.clock c.ended.time) c.outcome := next
  rw [completed, zone] at next
  rw [zone] at following ⊢
  obtain ⟨wakes, delays⟩ := nextWake_completed s (.fixed offset) (h.clock c.ended.time) v
  rw [← next] at wakes delays
  constructor
  · intro before
    exact wakes start (nextMonthStart_eq_of_lt reading following before)
  · intro reached
    rcases found : nextMonthStart (.fixed offset) (h.clock c.ended.time) with e | later
    · refine ⟨?_, fun later none => by cases none⟩
      rw [delays e found]
      exact Int.le_trans reached (le_after _ _)
    · have passed : start < later := Int.lt_of_le_of_lt reached (lt_nextMonthStart found)
      rw [wakes later found]
      refine ⟨Int.le_of_lt passed, ?_⟩
      rintro _ ⟨⟩
      exact ⟨rfl, passed⟩

/-! ## A cycle over the turn of a month -/

/-- A clock that shows the last second of a January, and after four seconds the first of the
February. -/
def turnOfMonth : Payroll.Surroundings where
  clock t :=
    if t < .ofSeconds 4 0 then { seconds := 1706745599, nanos := 0 }
    else { seconds := 1706745600, nanos := 0 }
  zone := .utc
  latency := .ofSeconds 1 0

theorem turnOfMonth_onward (t u : Duration) (h : t ≤ u) :
    turnOfMonth.clock t ≤ turnOfMonth.clock u := by
  unfold turnOfMonth
  dsimp only
  split
  · split <;> decide
  · rename_i turned
    rw [if_neg fun early => turned (Nat.lt_of_le_of_lt h early)]
    decide

/-- One budget that is owed its payroll. -/
def oneBudget : Store where
  budgets := [⟨1, "rent", ⟨100⟩, none, false, Instant.first, Instant.first⟩]
  lastBudget := 1
  budgets_byId := List.pairwise_singleton _ _

/-- The scheduler starts as the January ends. -/
def atTurnOfMonth : Trace (Retry.Logged World) (List Payroll.Application) :=
  run (host turnOfMonth).logged {} 1
    ⟨0, none, { world := { database := .live { store := oneBudget } } }⟩

/-- The cycle that this scheduler runs; it lasts into the February. -/
def overTurnOfMonth : Cycle (Retry.Logged World) (List Payroll.Application) :=
  atTurnOfMonth.cycles.head (by decide +kernel)

def paidInJanuary : List Payroll.Application :=
  [⟨1, "rent", ⟨100⟩, none, { seconds := 1706745599, nanos := 0 }⟩]

/-- The first instant of the February. -/
def february : Instant := { seconds := 1706745600, nanos := 0 }

/-- The scheduler then wakes with the March. -/
theorem next_overTurnOfMonth :
    overTurnOfMonth.next = { seconds := 1709251200, nanos := 0 } ∧
      february < overTurnOfMonth.next := by
  have fixed : (host turnOfMonth).zone = .fixed 0 := rfl
  obtain ⟨t, last, -, -, next⟩ := next_after_completed (s := {}) fixed turnOfMonth_onward 1 _
    (c := overTurnOfMonth) (List.head_mem _) (v := paidInJanuary) (by decide +kernel)
  have began : overTurnOfMonth.ended.world.log.getLast? = some (.attempt, .ofSeconds 3 0) := by
    decide +kernel
  rw [began] at last
  cases last
  have january : nextMonthStart .utc (turnOfMonth.clock (.ofSeconds 3 0)) = .ok february := rfl
  have reached : february ≤ turnOfMonth.clock overTurnOfMonth.ended.time := by decide +kernel
  obtain ⟨-, later⟩ := (next february january).2 reached
  obtain ⟨same, passed⟩ := later { seconds := 1709251200, nanos := 0 } rfl
  rw [same]
  exact ⟨rfl, passed⟩

/-- So the scheduler may wake later than the start of the month after the one that it paid. -/
theorem month_passed_over :
    ¬∀ (p : Payroll.Surroundings) (offset : Int), p.zone = .fixed offset →
      (∀ t u : Duration, t ≤ u → p.clock t ≤ p.clock u) →
      ∀ s n m, ∀ c ∈ (run (host p).logged s n m).cycles, ∀ report t start,
        c.outcome = .completed report → c.ended.world.log.getLast? = some (.attempt, t) →
        nextMonthStart p.zone (p.clock t) = .ok start → c.next ≤ start := by
  intro never
  have bound : overTurnOfMonth.next ≤ february :=
    never turnOfMonth 0 rfl turnOfMonth_onward {} 1 _ overTurnOfMonth (List.head_mem _)
      paidInJanuary (.ofSeconds 3 0) february (by decide +kernel) (by decide +kernel) rfl
  have late : ¬overTurnOfMonth.next ≤ february := by decide +kernel
  exact late bound

end Paymaster.Scheduler
