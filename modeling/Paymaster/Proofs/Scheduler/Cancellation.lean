import Paymaster.Proofs.Retry.Cancellation
import Paymaster.Proofs.Scheduler.NextMonth

/-
  The token and the attempts of a scheduler.
  What holds of the attempts of a cycle holds of those of all cycles together: once the token has
  fired the scheduler begins no cycle, and no attempt in the one that runs, but for the attempt
  whose ping ends just as the token fires (`attempts_orderly`). That attempt is begun although the
  token has fired (`attempt_after_token`).
-/

namespace Paymaster.Scheduler

variable {σ α : Type}

/-- The attempts of at most `n` cycles, the first one at `wake`. `tokenFirst` says how each race of
a wait is decided if both sides are ready at once. -/
def tries (h : Host σ α) (s : PayrollSettings) (tokenFirst : Retry.Moment σ → Bool) :
    Nat → Instant → Retry.Moment σ → List (Retry.Try σ α)
  | 0, _, _ => []
  | n + 1, wake, m =>
    match m.race (h.calls.timers.lasts ((h.clock m.time).lapse wake)) (tokenFirst m) with
    | .cancelled _ => []
    | .going () m =>
      let (outcome, ended) := Retry.run h.calls s.policy m
      Retry.tries h.calls s.policy tokenFirst s.policy.schedule 1 m ++
        if ended.isCancelled then []
        else tries h s tokenFirst n (nextWake s h.zone (h.clock ended.time) outcome) ended

variable {h : Host σ α} {s : PayrollSettings}

theorem orderly_nil (host : Retry.Host σ α) (p : Retry.Policy) : Retry.Orderly host p [] where
  last := .nil
  heeds _ none := nomatch none
  runsOut _ none := nomatch none

theorem orderly_append {host : Retry.Host σ α} {p : Retry.Policy} {made more : List (Retry.Try σ α)}
    (hm : Retry.Orderly host p made) (hn : Retry.Orderly host p more)
    (later : ∀ a ∈ made, more ≠ [] → ¬a.ended.isCancelled) :
    Retry.Orderly host p (made ++ more) where
  last := List.pairwise_append.2 ⟨hm.last, hn.last, fun a ha _ hb =>
    later a ha (List.ne_nil_of_mem hb)⟩
  heeds a ha := (List.mem_append.1 ha).elim (hm.heeds a) (hn.heeds a)
  runsOut a ha := (List.mem_append.1 ha).elim (hm.runsOut a) (hn.runsOut a)

theorem orderly_tries (h : Host σ α) (s : PayrollSettings) (tokenFirst : Retry.Moment σ → Bool)
    (n : Nat) (wake : Instant) (m : Retry.Moment σ) :
    Retry.Orderly h.calls s.policy (tries h s tokenFirst n wake m) := by
  induction n generalizing wake m with
  | zero => exact orderly_nil _ _
  | succ n ih =>
    rw [tries]
    rcases m.race (h.calls.timers.lasts ((h.clock m.time).lapse wake)) (tokenFirst m) with
      ⟨_, m₁⟩ | m₁
    · dsimp only
      refine orderly_append (Retry.orderly_tries _ _ _ _ _ _) ?_ fun a ha more fired => ?_
      · split
        · exact orderly_nil _ _
        · exact ih _ _
      · rw [if_pos] at more
        · exact more rfl
        · exact Retry.isCancelled_rounds ha fired
    · exact orderly_nil _ _

/-- The attempts that the scheduler logs are those of the list. -/
theorem attemptTimes_cycles (h : Host σ α) (s : PayrollSettings)
    (tokenFirst : Retry.Moment (Retry.Logged σ) → Bool) (n : Nat) (wake : Instant)
    (m : Retry.Moment (Retry.Logged σ)) :
    (cycles h.logged s n wake m).moment.world.attemptTimes = m.world.attemptTimes ++
      (tries h.logged s tokenFirst n wake m).map (·.began.time) := by
  induction n generalizing wake m with
  | zero => simp [cycles, tries]
  | succ n ih =>
    have waited := Retry.world_wait m
      (h.logged.calls.timers.lasts ((h.logged.clock m.time).lapse wake))
    rw [cycles, tries, Retry.race_eq_wait]
    rcases went : m.wait (h.logged.calls.timers.lasts ((h.logged.clock m.time).lapse wake)) with
      ⟨_, m₁⟩ | m₁ <;>
      rw [went] at waited <;> replace waited : m₁.world = m.world := waited
    · have cycle :=
        Retry.attemptTimes_rounds h.calls s.policy tokenFirst s.policy.schedule 1 none m₁
      rw [waited] at cycle
      dsimp only
      split
      · rw [List.append_nil]
        exact cycle
      · rw [ih, List.map_append, ← List.append_assoc]
        exact congrArg (· ++ _) cycle
    · simp [waited]

/-- The attempts of a cycle, and those of all cycles of a scheduler, in their order: each begins no
later than the token fires, and with the token fired only if its ping ended, and was heard, just as
the token fired; none follows one at whose end the token has fired; and each runs to its own end or
to its bound. This holds whatever the calls give, however long they take, whenever the token fires,
and however races between the token and a timer or a ping are decided. -/
theorem attempts_orderly (h : Host σ α) (p : Retry.Policy) (s : PayrollSettings)
    (tokenFirst : Retry.Moment (Retry.Logged σ) → Bool) (n : Nat)
    (m : Retry.Moment (Retry.Logged σ)) :
    ((Retry.run h.logged.calls p m).2.world.attemptTimes = m.world.attemptTimes ++
        (Retry.tries h.logged.calls p tokenFirst p.schedule 1 m).map (·.began.time) ∧
      Retry.Orderly h.logged.calls p (Retry.tries h.logged.calls p tokenFirst p.schedule 1 m)) ∧
    (run h.logged s n m).moment.world.attemptTimes = m.world.attemptTimes ++
        (tries h.logged s tokenFirst n (after (h.clock m.time) s.warmup) m).map (·.began.time) ∧
      Retry.Orderly h.logged.calls s.policy
        (tries h.logged s tokenFirst n (after (h.clock m.time) s.warmup) m) :=
  ⟨⟨Retry.attemptTimes_rounds h.calls p tokenFirst p.schedule 1 none m,
      Retry.orderly_tries _ _ _ _ _ _⟩,
    attemptTimes_cycles h s tokenFirst n _ m, orderly_tries _ _ _ _ _ _⟩

/-! ## A token that fires as a ping ends -/

/-- A ping that takes five milliseconds and fires the token as it ends. -/
def firingPing : Retry.Script Int where
  pings := [{ result := .ok (), takes := .ofMillis 5, fires := some .atEnd }]
  attempts := [{ result := .ok 1 }]

/-- So it is not so that no attempt begins once the token has fired. -/
theorem attempt_after_token :
    ¬∀ (σ α : Type) (host : Retry.Host σ α) (p : Retry.Policy) (tokenFirst : Retry.Moment σ → Bool)
      (m : Retry.Moment σ), ∀ a ∈ Retry.tries host p tokenFirst p.schedule 1 m,
        ¬a.began.isCancelled := by
  intro never
  have none := never _ _ (Retry.Script.host 0) { Retry.Policy.standard with backoffs := [0] }
    (fun _ => true) ⟨0, none, firingPing⟩
  revert none
  decide +kernel

end Paymaster.Scheduler
