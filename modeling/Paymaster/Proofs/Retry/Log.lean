import Paymaster.Proofs.Retry.Invariant
import Paymaster.Retry.Script

/-
  What a cycle called, and when.
  A host stands for another when its replies are those of the other, seen through a map of worlds;
  a cycle then takes the same course with both (`Mirrors.run`). `Host.logged` keeps, beside the
  world, every call with the time of its start. It stands for the host itself (`run_logged`), so
  what its log tells is true of the host's own cycles. A cycle that completed ended with the
  attempt that its log names last (`exists_last_attempt`).
-/

namespace Paymaster.Retry

variable {σ τ α β : Type}

/-! ## Hosts that stand for others -/

def Reply.map (f : τ → σ) (r : Reply τ β) : Reply σ β where
  result := r.result
  takes := r.takes
  fires := r.fires
  yields := r.yields
  after := f r.after
  abandoned := f r.abandoned

def Moment.map (f : τ → σ) (m : Moment τ) : Moment σ := ⟨m.time, m.fires, f m.world⟩

def Progress.map (f : τ → σ) : Progress τ β → Progress σ β
  | going value m => going value (m.map f)
  | cancelled m => cancelled (m.map f)

/-- The replies of the one host, seen through `f`, are those of the other, and its timers are the
same. -/
structure Mirrors (f : τ → σ) (image : Host τ α) (host : Host σ α) : Prop where
  ping : ∀ t w, (image.ping t w).map f = host.ping t (f w)
  attempt : ∀ t w, (image.attempt t w).map f = host.attempt t (f w)
  timers : image.timers = host.timers

section
variable (f : τ → σ)

theorem wait_map (m : Moment τ) (d : Duration) : (m.map f).wait d = (m.wait d).map f := by
  unfold Moment.wait Moment.map
  dsimp only
  split
  · rfl
  · split <;> rfl

theorem finish_map (r : Reply τ β) (lasts : Duration) (m : Moment τ) :
    (r.map f).finish lasts (m.map f) = (r.finish lasts m).map f := by
  by_cases inTime : r.takes ≤ lasts <;> rcases fires : r.fires with _ | _ | _ <;>
    simp [Reply.finish, Reply.map, Moment.map, Reply.inTime, Moment.fireAt, inTime, fires]

variable {f} {image : Host τ α} {host : Host σ α}

theorem Mirrors.of_ping (h : Mirrors f image host) (limit : Duration) (m : Moment τ) :
    Retry.ping host limit (m.map f) = (Retry.ping image limit m).map f := by
  have same : host.ping (m.map f).time (m.map f).world = (image.ping m.time m.world).map f :=
    (h.ping m.time m.world).symm
  unfold Retry.ping
  rw [same, ← h.timers]
  generalize image.ping m.time m.world = r
  generalize image.timers.lasts limit = lasts
  have seen : (r.map f).interruption (min (r.map f).takes lasts) (m.map f) =
      r.interruption (min r.takes lasts) m := rfl
  dsimp only
  rw [seen, finish_map]
  rcases r.interruption (min r.takes lasts) m with _ | interrupted
  · rfl
  · by_cases atStart : r.fires = some .atStart <;>
      simp [Progress.map, Moment.map, Moment.fireAt, Reply.map, atStart]

theorem Mirrors.of_attempt (h : Mirrors f image host) (limit : Duration) (m : Moment τ) :
    Retry.attempt host limit (m.map f) =
      ((Retry.attempt image limit m).1, (Retry.attempt image limit m).2.map f) := by
  have same : host.attempt (m.map f).time (m.map f).world =
      (image.attempt m.time m.world).map f := (h.attempt m.time m.world).symm
  unfold Retry.attempt
  rw [same, ← h.timers]
  dsimp only
  rw [finish_map]
  rfl

theorem Mirrors.rounds (h : Mirrors f image host) (p : Policy) (ds : List Duration) (number : Nat)
    (last : Option Error) (m : Moment τ) :
    Retry.rounds host p ds number last (m.map f) =
      ((Retry.rounds image p ds number last m).1,
        (Retry.rounds image p ds number last m).2.map f) := by
  induction ds generalizing number last m with
  | nil => rfl
  | cons d ds ih =>
    rw [Retry.rounds, Retry.rounds, wait_map, h.timers]
    rcases m.wait (host.timers.lasts d) with ⟨u, m₁⟩ | m₁ <;> dsimp only [Progress.map]
    rw [h.of_ping]
    rcases Retry.ping image p.pingTimeout m₁ with ⟨e | _, m₂⟩ | m₂ <;> dsimp only [Progress.map]
    · exact ih _ _ m₂
    · rw [h.of_attempt]
      rcases Retry.attempt image p.attemptTimeout m₂ with ⟨e | value, m₃⟩ <;> dsimp only
      split
      · exact ih _ _ m₃
      · rfl
      · rfl

/-- A cycle takes the same course with a host that stands for another. -/
theorem Mirrors.run (h : Mirrors f image host) (p : Policy) (m : Moment τ) :
    Retry.run host p (m.map f) = ((Retry.run image p m).1, (Retry.run image p m).2.map f) :=
  h.rounds p _ _ _ m

end

/-! ## Calls on record -/

/-- A world, and the calls made on it with the times of their starts, in order. -/
structure Logged (σ : Type) where
  world : σ
  log : List (CallKind × Duration) := []

namespace Logged

def note (w : Logged σ) (kind : CallKind) (t : Duration) (world : σ) : Logged σ :=
  ⟨world, w.log ++ [(kind, t)]⟩

end Logged

/-- The host with its calls on record. -/
def Host.logged (host : Host σ α) : Host (Logged σ) α where
  ping t w := (host.ping t w.world).map (w.note .ping t)
  attempt t w := (host.attempt t w.world).map (w.note .attempt t)
  timers := host.timers

theorem mirrors_logged (host : Host σ α) : Mirrors Logged.world host.logged host where
  ping _ _ := rfl
  attempt _ _ := rfl
  timers := rfl

/-- Keeping a log changes nothing in a cycle. -/
theorem run_logged (host : Host σ α) (p : Policy) (m : Moment (Logged σ)) :
    run host p (m.map Logged.world) =
      ((run host.logged p m).1, (run host.logged p m).2.map Logged.world) :=
  (mirrors_logged host).run p m

theorem log_attempt (host : Host σ α) (limit : Duration) (m : Moment (Logged σ)) :
    (attempt host.logged limit m).2.world.log = m.world.log ++ [(.attempt, m.time)] := by
  rcases world_attempt host.logged limit m with same | same <;> rw [same] <;> rfl

/-- A cycle that completed ended with an attempt that its log names last; the attempt began within
the cycle. -/
theorem exists_last_attempt {host : Host σ α} {p : Policy} {m : Moment (Logged σ)} {v : α}
    (completed : (run host.logged p m).1 = .completed v) :
    ∃ t, (run host.logged p m).2.world.log.getLast? = some (.attempt, t) ∧
      m.time ≤ t ∧ t ≤ (run host.logged p m).2.time := by
  have later : Keeps host.logged p fun m' => m.time ≤ m'.time := {
    wait := fun m' t longer begun => Nat.le_trans begun longer
    ping := fun m' begun => Nat.le_trans begun (time_le_ping _ _ m')
    attempt := fun m' begun => Nat.le_trans begun (time_le_finish _ _ m') }
  obtain ⟨start, begun, tried⟩ := later.exists_attempt (Nat.le_refl _) completed
  have ended : (attempt host.logged p.attemptTimeout start).2 = (run host.logged p m).2 := by
    rw [tried]
  refine ⟨start.time, ?_, begun, ?_⟩
  · rw [← ended, log_attempt, List.getLast?_concat]
  · rw [← ended]
    exact time_le_finish _ _ start

end Paymaster.Retry
