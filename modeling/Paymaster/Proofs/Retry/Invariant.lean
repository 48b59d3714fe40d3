import Paymaster.Retry.Run

/-
  What a cycle of attempts preserves.
  A cycle moves on by waiting, by pinging and by attempting. A property of moments that each of
  the three keeps holds at the end of the cycle (`run_keeps`), and a cycle that completed ended
  with an attempt, begun at a moment with the property, that gave the value
  (`exists_attempt_of_completed`).
-/

namespace Paymaster.Retry

variable {σ α β : Type}

/-- The moment to which a wait or a call leads. -/
def Progress.moment : Progress σ β → Moment σ
  | going _ m => m
  | cancelled m => m

/-- Waits, pings and attempts keep the property `P`. -/
structure Keeps (host : Host σ α) (p : Policy) (P : Moment σ → Prop) : Prop where
  wait : ∀ m t, m.time ≤ t → P m → P { m with time := t }
  ping : ∀ m, P m → P (ping host p.pingTimeout m).moment
  attempt : ∀ m, P m → P (attempt host p.attemptTimeout m).2

theorem exists_time_of_wait (m : Moment σ) (d : Duration) :
    ∃ t, m.time ≤ t ∧ (m.wait d).moment = { m with time := t } := by
  rcases fires : m.fires with _ | f
  · exact ⟨m.time + d, Nat.le_add_right _ _, by simp [Moment.wait, fires, Progress.moment]⟩
  · by_cases due : f ≤ m.time + d
    · exact ⟨max m.time f, Nat.le_max_left _ _, by simp [Moment.wait, fires, due, Progress.moment]⟩
    · exact ⟨m.time + d, Nat.le_add_right _ _, by simp [Moment.wait, fires, due, Progress.moment]⟩

variable {host : Host σ α} {p : Policy} {P : Moment σ → Prop}

theorem Keeps.of_wait (k : Keeps host p P) {m : Moment σ} (h : P m) (d : Duration) :
    P (m.wait d).moment := by
  obtain ⟨t, later, same⟩ := exists_time_of_wait m d
  rw [same]
  exact k.wait m t later h

/-- The rounds keep the property, and end with the attempt that gave their value. -/
theorem Keeps.of_rounds (k : Keeps host p P) (ds : List Duration) (number : Nat)
    (last : Option Error) (m : Moment σ) (h : P m) :
    P (rounds host p ds number last m).2 ∧
      ∀ v, (rounds host p ds number last m).1 = .completed v →
        ∃ start, P start ∧
          Retry.attempt host p.attemptTimeout start =
            (.ok v, (rounds host p ds number last m).2) := by
  induction ds generalizing number last m with
  | nil => exact ⟨h, fun v none => by cases none⟩
  | cons d ds ih =>
    have waited := k.of_wait h (host.timers.lasts d)
    rw [rounds]
    rcases went : m.wait (host.timers.lasts d) with ⟨u, m₁⟩ | m₁
    · rw [went] at waited
      dsimp only
      have pinged := k.ping m₁ waited
      rcases answered : Retry.ping host p.pingTimeout m₁ with ⟨health, m₂⟩ | m₂
      · rw [answered] at pinged
        rcases health with e | _
        · exact ih _ _ m₂ pinged
        · dsimp only
          have attempted := k.attempt m₂ pinged
          rcases tried : Retry.attempt host p.attemptTimeout m₂ with ⟨e | value, m₃⟩
          · rw [tried] at attempted
            dsimp only
            split
            · exact ih _ _ m₃ attempted
            · exact ⟨attempted, fun v none => by cases none⟩
            · exact ⟨attempted, fun v none => by cases none⟩
          · rw [tried] at attempted
            refine ⟨attempted, fun v same => ⟨m₂, pinged, ?_⟩⟩
            cases same
            exact tried
      · rw [answered] at pinged
        exact ⟨pinged, fun v none => by cases none⟩
    · rw [went] at waited
      exact ⟨waited, fun v none => by cases none⟩

theorem Keeps.of_run (k : Keeps host p P) {m : Moment σ} (h : P m) : P (run host p m).2 :=
  (k.of_rounds _ _ _ m h).1

theorem Keeps.exists_attempt (k : Keeps host p P) {m : Moment σ} (h : P m) {v : α}
    (completed : (run host p m).1 = .completed v) :
    ∃ start, P start ∧
      Retry.attempt host p.attemptTimeout start = (.ok v, (run host p m).2) :=
  (k.of_rounds _ _ _ m h).2 v completed

/-! ## The end of a call -/

section
variable {r : Reply σ β} {lasts : Duration} {m : Moment σ}

theorem time_le_finish (r : Reply σ β) (lasts : Duration) (m : Moment σ) :
    m.time ≤ (r.finish lasts m).time := by
  unfold Reply.finish
  dsimp only
  split <;> split <;> (try split) <;> simp [Moment.fireAt]

/-- A call leaves its world behind if it ended in time, and the abandoned one if not. -/
theorem world_finish (r : Reply σ β) (lasts : Duration) (m : Moment σ) :
    (r.finish lasts m).world = if r.inTime lasts then r.after else r.abandoned := by
  unfold Reply.finish
  dsimp only
  split <;> split <;> (try split) <;> simp_all [Moment.fireAt]

end

theorem time_le_ping (host : Host σ α) (limit : Duration) (m : Moment σ) :
    m.time ≤ (ping host limit m).moment.time := by
  unfold ping
  dsimp only
  split
  · refine Nat.le_trans (Nat.le_of_eq ?_) (Nat.le_max_left _ _)
    split <;> rfl
  · exact time_le_finish _ _ m

theorem world_ping (host : Host σ α) (limit : Duration) (m : Moment σ) :
    (ping host limit m).moment.world = (host.ping m.time m.world).after ∨
      (ping host limit m).moment.world = (host.ping m.time m.world).abandoned := by
  unfold ping
  dsimp only
  split
  · exact .inr rfl
  · simp only [Progress.moment, world_finish]
    split
    · exact .inl rfl
    · exact .inr rfl

theorem world_attempt (host : Host σ α) (limit : Duration) (m : Moment σ) :
    (attempt host limit m).2.world = (host.attempt m.time m.world).after ∨
      (attempt host limit m).2.world = (host.attempt m.time m.world).abandoned := by
  simp only [attempt, world_finish]
  split
  · exact .inl rfl
  · exact .inr rfl

/-- What every call keeps of the world, whether it ends or is abandoned, a cycle keeps. -/
theorem Keeps.of_world {P : σ → Prop}
    (ping : ∀ t w, P w → P (host.ping t w).after ∧ P (host.ping t w).abandoned)
    (attempt : ∀ t w, P w → P (host.attempt t w).after ∧ P (host.attempt t w).abandoned)
    (p : Policy) : Keeps host p fun m => P m.world where
  wait _ _ _ h := h
  ping m h := by
    rcases world_ping host p.pingTimeout m with same | same <;> rw [same]
    · exact (ping m.time m.world h).1
    · exact (ping m.time m.world h).2
  attempt m h := by
    rcases world_attempt host p.attemptTimeout m with same | same <;> rw [same]
    · exact (attempt m.time m.world h).1
    · exact (attempt m.time m.world h).2

end Paymaster.Retry
