import Mathlib.Data.List.Chain
import Paymaster.Proofs.Payroll.Conservation
import Paymaster.Proofs.Scheduler.NextMonth

/-
  How long the scheduler pauses.
  Model (read this before the theorems). A pause begins with a reading of the clock. From it and
  the length of the pause a wake-up is worked out, and then the scheduler waits for the wake-up. If
  there is an instant so much later (`Instant.HasLater`), it waits for as long as the pause. If
  there is none, the wake-up is the reading itself, and nothing is waited for (`kept`). A wall clock
  does not show leap seconds, and no timer ends early.

  So the first cycle begins when its warm-up has passed, and after a failure no cycle begins before
  the delay has passed, for all pauses that do not reach past the last instant (`delays_kept`). A
  pause that does is cut to nothing (`delay_cut_short`).
-/

namespace Paymaster

namespace Instant

/-- There is an instant `d` after `t`. -/
def HasLater (t : Instant) (d : Duration) : Prop :=
  t.seconds * 1000000000 + t.nanos + d < (Calendar.lastSecond + 1) * 1000000000

instance (t : Instant) (d : Duration) : Decidable (t.HasLater d) :=
  inferInstanceAs (Decidable (_ < _))

variable {t : Instant} {d : Duration}

theorem nanos_lt_of_regular (regular : ¬t.isLeapSecond) : t.nanos < 1000000000 := by
  simpa [isLeapSecond] using regular

/-- Where no leap second is involved, spans are differences. -/
theorem lapse_of_regular {u : Instant} (regular : ¬t.isLeapSecond) (other : ¬u.isLeapSecond) :
    t.lapse u = ((u.seconds - t.seconds) * 1000000000 + (u.nanos - t.nanos)).toNat := by
  unfold lapse
  rw [if_neg fun leap => regular leap.1, if_neg fun leap => other leap.1]
  dsimp only
  rw [Int.add_zero]

theorem after?_of_hasLater (regular : ¬t.isLeapSecond) (room : t.HasLater d) :
    ∃ later, t.after? d = some later ∧ t.lapse later = d ∧ ¬later.isLeapSecond := by
  have within := nanos_lt_of_regular regular
  have first := t.first_le
  unfold HasLater at room
  have starts : Calendar.firstSecond ≤ t.seconds + ((t.nanos + d) / 1000000000 : Nat) := by omega
  have ends : t.seconds + ((t.nanos + d) / 1000000000 : Nat) ≤ Calendar.lastSecond := by omega
  have rest : (t.nanos + d) % 1000000000 < 1000000000 := by omega
  let later : Instant := ⟨_, _, ⟨starts, ends⟩, Nat.lt_trans rest (by decide)⟩
  have regular' : ¬later.isLeapSecond := by
    simp only [later, isLeapSecond, decide_eq_true_eq]
    omega
  refine ⟨later, ?_, ?_, regular'⟩
  · rw [after?, if_neg fun leap => regular leap.1]
    dsimp only
    rw [Nat.mod_eq_of_lt within, of?, dif_pos later.inRange]
  · rw [lapse_of_regular regular regular']
    show (_ : Int).toNat = (_ : Nat)
    dsimp only [later]
    omega

theorem after?_of_not_hasLater (regular : ¬t.isLeapSecond) (past : ¬t.HasLater d) :
    t.after? d = none := by
  have within := nanos_lt_of_regular regular
  unfold HasLater at past
  rw [after?, if_neg fun leap => regular leap.1]
  dsimp only
  rw [Nat.mod_eq_of_lt within, of?, dif_neg]
  omega

end Instant

namespace Scheduler

variable {σ α : Type}

/-! ## One pause -/

/-- What is kept of a pause that begins at `now`. -/
def kept (now : Instant) (d : Duration) : Duration := if now.HasLater d then d else 0

section
variable {now : Instant}

theorem after_of_not_hasLater (regular : ¬now.isLeapSecond) {d : Duration}
    (past : ¬now.HasLater d) : after now d = now := by
  rw [after, Instant.after?_of_not_hasLater regular past, Option.getD_none]

theorem lapse_after (regular : ¬now.isLeapSecond) (d : Duration) :
    now.lapse (after now d) = kept now d := by
  unfold kept
  split
  · rename_i room
    obtain ⟨later, found, lasts, -⟩ := Instant.after?_of_hasLater regular room
    rw [after, found, Option.getD_some, lasts]
  · rename_i past
    rw [after_of_not_hasLater regular past, Instant.lapse_of_regular regular regular]
    simp

theorem after_regular (regular : ¬now.isLeapSecond) (d : Duration) :
    ¬(after now d).isLeapSecond := by
  by_cases room : now.HasLater d
  · obtain ⟨later, found, -, regular'⟩ := Instant.after?_of_hasLater regular room
    rw [after, found, Option.getD_some]
    exact regular'
  · rw [after_of_not_hasLater regular room]
    exact regular

end

/-! ## The pauses of a trace -/

/-- The cycle failed, or it completed and no start of the next month was found. -/
def Cycle.IsDelayed (h : Host σ α) (c : Cycle σ α) : Prop :=
  (∃ cause attempts, c.outcome = .failed cause attempts) ∨
    ∃ v e, c.outcome = .completed v ∧
      Calendar.nextMonthStart h.zone (h.clock c.ended.time) = .error e

/-- The pause after a failure is kept between the end of `c` and the beginning of `c'`. -/
def Cycle.Spaced (h : Host σ α) (s : PayrollSettings) (c c' : Cycle σ α) : Prop :=
  c.ended.time + kept (h.clock c.ended.time) s.failureRetry ≤ c'.began

/-- Cycles that began as their pauses say, in a scheduler that was started at `start`. -/
structure Paced (h : Host σ α) (s : PayrollSettings) (start : Retry.Moment σ)
    (cs : List (Cycle σ α)) : Prop where
  /-- The first one began when the timer for the warm-up had ended. -/
  first : ∀ c ∈ cs.head?,
    c.began = start.time + h.calls.timers.lasts (kept (h.clock start.time) s.warmup)
  /-- The one that follows a failure began when the timer for the delay had ended. -/
  next : cs.IsChain fun c c' => c.IsDelayed h →
    c'.began = c.ended.time + h.calls.timers.lasts (kept (h.clock c.ended.time) s.failureRetry)
  /-- None of those that follow began before the delay had passed. -/
  later : cs.Pairwise fun c c' => c.IsDelayed h → c.Spaced h s c'

section
variable {h : Host σ α} {s : PayrollSettings} {n : Nat} {wake : Instant} {m : Retry.Moment σ}

theorem time_of_wait {m' : Retry.Moment σ} {u : Unit} {d : Duration}
    (went : m.wait d = .going u m') : m'.time = m.time + d := by
  unfold Retry.Moment.wait at went
  split at went
  · cases went
    rfl
  · split at went
    · cases went
    · cases went
      rfl

/-- The first cycle begins once its wake-up was waited for. -/
theorem began_head {c : Cycle σ α} (hc : c ∈ (cycles h s n wake m).cycles.head?) :
    c.began = m.time + h.calls.timers.lasts ((h.clock m.time).lapse wake) := by
  cases n with
  | zero => cases hc
  | succ n =>
    rw [cycles] at hc
    split at hc
    · cases hc
    · rename_i m' went
      rw [← time_of_wait went]
      dsimp only at hc
      split at hc <;> cases hc <;> rfl

/-- Every other cycle begins once the wake-up that the one before it worked out was waited for. -/
theorem isChain_began (h : Host σ α) (s : PayrollSettings) (n : Nat) (wake : Instant)
    (m : Retry.Moment σ) :
    (cycles h s n wake m).cycles.IsChain fun c c' =>
      c'.began = c.ended.time + h.calls.timers.lasts ((h.clock c.ended.time).lapse c.next) := by
  induction n generalizing wake m with
  | zero => exact .nil
  | succ n ih =>
    rw [cycles]
    split
    · exact .nil
    · dsimp only
      split
      · exact .singleton _
      · exact List.isChain_cons.2 ⟨fun c' hc' => began_head hc', ih _ _⟩

theorem ended_of_mem {c : Cycle σ α} (hc : c ∈ (cycles h s n wake m).cycles) :
    c.began ≤ c.ended.time ∧ c.next = nextWake s h.zone (h.clock c.ended.time) c.outcome := by
  obtain ⟨start, began, ran, next⟩ := mem_cycles hc
  refine ⟨?_, next⟩
  have later : Retry.Keeps h.calls s.policy fun m' => start.time ≤ m'.time := {
    wait := fun m' t longer begun => Nat.le_trans begun longer
    ping := fun m' begun => Nat.le_trans begun (Retry.time_le_ping _ _ m')
    attempt := fun m' begun => Nat.le_trans begun (Retry.time_le_finish _ _ m') }
  have ended : (Retry.run h.calls s.policy start).2 = c.ended := congrArg Prod.snd ran
  rw [← began, ← ended]
  exact later.of_run (Nat.le_refl _)

theorem nextWake_of_isDelayed {c : Cycle σ α} (delayed : c.IsDelayed h) :
    nextWake s h.zone (h.clock c.ended.time) c.outcome =
      after (h.clock c.ended.time) s.failureRetry := by
  rcases delayed with ⟨cause, attempts, failed⟩ | ⟨v, e, completed, none⟩
  · rw [failed]
    rfl
  · rw [completed]
    exact (nextWake_completed s h.zone _ v).2 e none

theorem paced_run (regular : ∀ t, ¬(h.clock t).isLeapSecond) (punctual : h.calls.timers.Punctual)
    (s : PayrollSettings) (n : Nat) (m : Retry.Moment σ) :
    Paced h s m (run h s n m).cycles := by
  have chain := isChain_began h s n (after (h.clock m.time) s.warmup) m
  have pause {c : Cycle σ α} (hc : c ∈ (run h s n m).cycles) (delayed : c.IsDelayed h) :
      (h.clock c.ended.time).lapse c.next = kept (h.clock c.ended.time) s.failureRetry := by
    rw [(ended_of_mem hc).2, nextWake_of_isDelayed delayed, lapse_after (regular _)]
  have next : (run h s n m).cycles.IsChain fun c c' => c.IsDelayed h →
      c'.began =
        c.ended.time + h.calls.timers.lasts (kept (h.clock c.ended.time) s.failureRetry) :=
    chain.imp_of_mem_imp fun c c' hc _ began delayed => by rw [began, pause hc delayed]
  refine ⟨fun c hc => ?_, next, ?_⟩
  · rw [began_head hc, lapse_after (regular _)]
  -- Times only go up, so what is kept from one cycle to the next is kept from there on.
  · let Onward (c c' : Cycle σ α) : Prop :=
      c.ended.time ≤ c'.began ∧ c'.began ≤ c'.ended.time ∧ (c.IsDelayed h → c.Spaced h s c')
    have : IsTrans (Cycle σ α) Onward := ⟨fun c c' c'' before after =>
      ⟨(before.1.trans before.2.1).trans after.1, after.2.1, fun delayed =>
        (before.2.2 delayed).trans (before.2.1.trans after.1)⟩⟩
    have onward : (run h s n m).cycles.IsChain Onward := by
      refine chain.imp_of_mem_imp fun c c' hc hc' began => ⟨?_, (ended_of_mem hc').1, ?_⟩
      · rw [began]
        exact Nat.le_add_right _ _
      · intro delayed
        rw [Cycle.Spaced, began, pause hc delayed]
        exact Nat.add_le_add_left (punctual _) _
    exact (List.isChain_iff_pairwise.1 onward).imp fun spaced => spaced.2.2

end

/-- The timer for what is kept of a pause runs for the pause just if there is an instant so much
later. -/
theorem le_lasts_kept_iff {timers : Retry.Timers} (punctual : timers.Punctual) {now : Instant}
    {d : Duration} : d ≤ timers.lasts (kept now d) ↔ now.HasLater d ∨ d = 0 := by
  unfold kept
  split
  · rename_i room
    exact ⟨fun _ => .inl room, fun _ => punctual d⟩
  · rename_i past
    rw [(timers.lasts_eq_zero 0).2 rfl]
    constructor
    · exact fun within => .inr (Nat.eq_zero_of_le_zero within)
    · rintro (room | rfl)
      · exact absurd room past
      · exact Nat.le_refl _

/-- On a wall clock, with timers that do not end early: what the scheduler works out for a pause is
the instant so much later, if there is one, and else the reading itself. In every execution,
whatever the calls give and however long they take, the first cycle begins when the timer for the
warm-up ends, and after a cycle that failed, or for which no start of the next month was found, no
cycle begins before the delay has passed, where a pause counts for what is kept of it. So the first
cycle waits for its warm-up just if it does not reach past the last instant. -/
theorem delays_kept {σ α : Type} (h : Host σ α) (regular : ∀ t, ¬(h.clock t).isLeapSecond)
    (punctual : h.calls.timers.Punctual) (s : PayrollSettings) (n : Nat) (m : Retry.Moment σ) :
    (∀ t d, if (h.clock t).HasLater d then
        (h.clock t).after? d = some (after (h.clock t) d) ∧
          (h.clock t).lapse (after (h.clock t) d) = d
      else (h.clock t).after? d = none ∧ after (h.clock t) d = h.clock t) ∧
    Paced h s m (run h s n m).cycles ∧
    ∀ c ∈ (run h s n m).cycles.head?, m.time + s.warmup ≤ c.began ↔
      (h.clock m.time).HasLater s.warmup ∨ s.warmup = 0 := by
  refine ⟨fun t d => ?_, paced_run regular punctual s n m, fun c hc => ?_⟩
  · split
    · rename_i room
      obtain ⟨later, found, lasts, -⟩ := Instant.after?_of_hasLater (regular t) room
      rw [after, found, Option.getD_some]
      exact ⟨rfl, lasts⟩
    · rename_i past
      exact ⟨Instant.after?_of_not_hasLater (regular t) past,
        after_of_not_hasLater (regular t) past⟩
  · rw [(paced_run regular punctual s n m).first c hc, Nat.add_le_add_iff_left,
      le_lasts_kept_iff punctual]

/-! ## A steady clock -/

/-- A clock that shows `now` at the start and goes on with the time. -/
def steady (now : Instant) : Payroll.Surroundings where
  clock t := after now t
  zone := .utc
  latency := .ofSeconds 1 0

/-- A scheduler without a database starts at noon; its first two cycles fail. -/
def offline : Trace World (List Payroll.Application) :=
  run (host (steady Payroll.noon)) {} 2 ⟨0, none, { database := .disconnected }⟩

/-- The warm-up is two seconds, the rounds of the first cycle take 2.75, and then the delay is
fifteen. -/
theorem delays_kept_offline :
    Paced (host (steady Payroll.noon)) {} ⟨0, none, { database := .disconnected }⟩ offline.cycles ∧
      offline.cycles.map (·.began) = [.ofSeconds 2 0, .ofSeconds 19 750000000] := by
  have noon : ¬Payroll.noon.isLeapSecond := by decide
  have punctual : Retry.Timers.exact.Punctual := fun d => Nat.le_refl d
  exact ⟨(delays_kept (host (steady Payroll.noon)) (after_regular noon) punctual {} 2 _).2.1,
    by decide +kernel⟩

/-- A warm-up of more than 285000 years. -/
def endless : PayrollSettings := { warmupMs := 9000000000000000 }

/-- But a longer pause may end earlier, as one that reaches past the last instant is none at all:
the first cycle may begin although the warm-up has not passed. -/
theorem delay_cut_short :
    (¬∀ (now : Instant) (d d' : Duration), ¬now.isLeapSecond → d' ≤ d → now.HasLater d' →
      after now d' ≤ after now d) ∧
    ¬∀ (now : Instant) (s : PayrollSettings) (n : Nat) (m : Retry.Moment World),
      ¬now.isLeapSecond → ∀ c ∈ (run (host (steady now)) s n m).cycles.head?,
        m.time + s.warmup ≤ c.began := by
  have noon : ¬Payroll.noon.isLeapSecond := by decide
  constructor
  · intro longer
    have later := longer Payroll.noon endless.warmup (.ofSeconds 2 0) noon (by decide) (by decide)
    have earlier : ¬after Payroll.noon (.ofSeconds 2 0) ≤ after Payroll.noon endless.warmup := by
      decide +kernel
    exact earlier later
  · intro kept
    have began := kept Payroll.noon endless 1 ⟨0, none, { database := .disconnected }⟩ noon
    revert began
    decide +kernel

end Scheduler

end Paymaster
