import Paymaster.Proofs.Retry.Rounds

/-
  The token and the attempts of a cycle.
  No attempt begins after the instant at which the token fires. One may begin at that very instant:
  the token is not looked at between a ping and the attempt that follows it, so if the token fires
  as the ping ends, and the ping is the one that is heard, then the attempt begins
  (`Try.Heeds.tie` says that this is the only case). No attempt follows one at whose end the token
  has fired (`pairwise_tries`), so that it is the last one. And an attempt that has begun runs to
  its own end or to its bound, whatever the token does (`Try.RunsOut`).
-/

namespace Paymaster.Retry

variable {σ α β : Type}

/-! ## What the token does to an attempt -/

/-- The ping before the attempt ended just as the token fired, and was heard: it fired the token
itself, or the race that both had won was decided for it. -/
def Try.Tied (host : Host σ α) (a : Try σ α) : Prop :=
  let r := host.ping a.pinged.time a.pinged.world
  a.began.time = a.pinged.time + r.takes ∧ a.began.fires = some a.began.time ∧
    (r.fires.isSome ∨ a.pinged.fires = some a.began.time ∧ r.yields = false)

/-- How an attempt begins with regard to the token. -/
structure Try.Heeds (host : Host σ α) (a : Try σ α) : Prop where
  /-- The token had not fired when its ping began. -/
  pinged : ¬a.pinged.isCancelled
  /-- The token did not fire before the attempt began. -/
  began : ∀ f, a.began.fires = some f → a.began.time ≤ f
  /-- When the attempt began the token had fired only if the two came at once. -/
  tie : a.began.isCancelled ↔ a.Tied host

/-- The attempt ran to its own end, or to its bound if that came first. -/
structure Try.RunsOut (host : Host σ α) (p : Policy) (a : Try σ α) : Prop where
  result : a.result =
    let r := host.attempt a.began.time a.began.world
    if r.takes ≤ host.timers.lasts p.attemptTimeout then r.result
    else .error (.timeout "payroll attempt" p.attemptTimeout)
  time : a.ended.time = a.began.time +
    min (host.attempt a.began.time a.began.world).takes (host.timers.lasts p.attemptTimeout)
  world : a.ended.world =
    let r := host.attempt a.began.time a.began.world
    if r.takes ≤ host.timers.lasts p.attemptTimeout then r.after else r.abandoned

/-- Attempts in their order, with regard to the token. -/
structure Orderly (host : Host σ α) (p : Policy) (made : List (Try σ α)) : Prop where
  /-- Once the token has fired no attempt follows. -/
  last : made.Pairwise fun a _ => ¬a.ended.isCancelled
  heeds : ∀ a ∈ made, a.Heeds host
  runsOut : ∀ a ∈ made, a.RunsOut host p

/-! ## The end of a call -/

theorem isCancelled_iff {m : Moment σ} : m.isCancelled ↔ ∃ f, m.fires = some f ∧ f ≤ m.time := by
  unfold Moment.isCancelled
  rcases m.fires with _ | f <;> simp

section
variable {r : Reply σ β} {lasts : Duration} {m : Moment σ}

theorem time_finish (r : Reply σ β) (lasts : Duration) (m : Moment σ) :
    (r.finish lasts m).time = m.time + min r.takes lasts := by
  by_cases inTime : r.takes ≤ lasts
  · rcases fires : r.fires with _ | _ | _ <;>
      simp [Reply.finish, Reply.inTime, Moment.fireAt, inTime, fires]
  · have late : lasts ≤ r.takes := Nat.le_of_not_le inTime
    rcases fires : r.fires with _ | _ | _ <;>
      simp [Reply.finish, Reply.inTime, Moment.fireAt, inTime, fires, Nat.min_eq_right late]

/-- When the token fires, once a call has ended in time. -/
theorem fires_finish (inTime : r.takes ≤ lasts) :
    (r.finish lasts m).fires = match r.fires with
      | none => m.fires
      | some .atStart => (m.fireAt m.time).fires
      | some .atEnd => (m.fireAt (m.time + r.takes)).fires := by
  rcases fires : r.fires with _ | _ | _ <;>
    simp [Reply.finish, Reply.inTime, Moment.fireAt, inTime, fires]

theorem fires_fireAt_le {f : Duration} (h : m.fires = some f) (t : Duration) :
    ∃ g, (m.fireAt t).fires = some g ∧ g ≤ f :=
  ⟨min f t, by simp [Moment.fireAt, h], Nat.min_le_left f t⟩

/-- A call may fire the token, but not put it off. -/
theorem fires_finish_le (r : Reply σ β) (lasts : Duration) {f : Duration} (h : m.fires = some f) :
    ∃ g, (r.finish lasts m).fires = some g ∧ g ≤ f := by
  have begun : ∃ g, (if r.fires = some .atStart then m.fireAt m.time else m).fires = some g ∧
      g ≤ f := by
    split
    · exact fires_fireAt_le h m.time
    · exact ⟨f, h, Nat.le_refl f⟩
  obtain ⟨g, fires, earlier⟩ := begun
  unfold Reply.finish
  dsimp only
  split
  · split
    · obtain ⟨k, fires, sooner⟩ := fires_fireAt_le fires (_ + r.takes)
      exact ⟨k, fires, Nat.le_trans sooner earlier⟩
    · exact ⟨g, fires, earlier⟩
  · exact ⟨g, fires, earlier⟩

end

/-- A token that has fired stays so. -/
theorem isCancelled_finish (r : Reply σ β) (lasts : Duration) {m : Moment σ} (h : m.isCancelled) :
    (r.finish lasts m).isCancelled := by
  obtain ⟨f, fires, fired⟩ := isCancelled_iff.1 h
  obtain ⟨g, fires, earlier⟩ := fires_finish_le r lasts fires
  exact isCancelled_iff.2 ⟨g, fires,
    Nat.le_trans earlier (Nat.le_trans fired (time_le_finish r lasts m))⟩

theorem isCancelled_ping (host : Host σ α) (limit : Duration) {m : Moment σ}
    (h : m.isCancelled) : (ping host limit m).moment.isCancelled := by
  unfold ping
  dsimp only
  split
  · rename_i f _
    obtain ⟨g, fires, fired⟩ := isCancelled_iff.1 h
    refine isCancelled_iff.2 ?_
    split
    · exact ⟨min g m.time, by simp [Progress.moment, Moment.fireAt, fires],
        Nat.le_trans (Nat.min_le_right _ _) (Nat.le_max_left _ _)⟩
    · exact ⟨g, fires, Nat.le_trans fired (Nat.le_max_left _ _)⟩
  · exact isCancelled_finish _ _ h

theorem keeps_isCancelled (host : Host σ α) (p : Policy) :
    Keeps host p fun m => m.isCancelled where
  wait m t later h := by
    obtain ⟨f, fires, fired⟩ := isCancelled_iff.1 h
    exact isCancelled_iff.2 ⟨f, fires, Nat.le_trans fired later⟩
  ping _ h := isCancelled_ping host p.pingTimeout h
  attempt _ h := isCancelled_finish _ _ h

/-! ## One attempt -/

/-- A ping that went well was not interrupted and ended in time. -/
theorem ping_ok {host : Host σ α} {limit : Duration} {m m' : Moment σ}
    (h : ping host limit m = .going (.ok ()) m') :
    let r := host.ping m.time m.world
    let lasts := host.timers.lasts limit
    r.takes ≤ lasts ∧ r.interruption r.takes m = none ∧ m' = r.finish lasts m := by
  unfold ping at h
  dsimp only at h ⊢
  generalize host.ping m.time m.world = r at h ⊢
  generalize host.timers.lasts limit = lasts at h ⊢
  rcases seen : r.interruption (min r.takes lasts) m with _ | f <;> rw [seen] at h
  · injection h with health same
    have inTime : r.takes ≤ lasts := by
      refine Decidable.byContradiction fun late => ?_
      simp [Reply.bounded, Reply.inTime, late] at health
    rw [Nat.min_eq_left inTime] at seen
    exact ⟨inTime, seen, same.symm⟩
  · cases h

/-- Nothing interrupts a ping that ends before the token fires, or just then and is heard. -/
theorem of_interruption_eq_none {r : Reply σ β} {lasts : Duration} {m : Moment σ}
    (h : r.interruption lasts m = none) :
    (r.fires = some .atStart → lasts = 0) ∧
      ∀ f, m.fires = some f → m.time + lasts ≤ f ∧ (f = m.time + lasts → r.yields = false) := by
  unfold Reply.interruption at h
  split at h
  · cases h
  · rename_i idle
    refine ⟨fun atStart => Nat.eq_zero_of_not_pos fun longer => idle ⟨atStart, longer⟩, ?_⟩
    intro f fires
    have missed := Option.filter_eq_none_iff.1 h f fires
    simp only [Bool.or_eq_true, Bool.and_eq_true, decide_eq_true_eq, not_or, not_and,
      Bool.not_eq_true] at missed
    exact ⟨Nat.le_of_not_lt missed.1, missed.2⟩

/-- A ping that went well and fired the token fired it just as it ended. -/
theorem fires_of_ping_fires {r : Reply σ β} {lasts : Duration} {m : Moment σ}
    (unfired : ¬m.isCancelled) (inTime : r.takes ≤ lasts)
    (seen : r.interruption r.takes m = none) (fires : r.fires.isSome) :
    (r.finish lasts m).fires = some (m.time + r.takes) := by
  obtain ⟨atOnce, later⟩ := of_interruption_eq_none seen
  rw [fires_finish inTime]
  rcases when : r.fires with _ | _ | _
  · rw [when] at fires
    cases fires
  · rw [atOnce when]
    rcases outside : m.fires with _ | f
    · simp [Moment.fireAt, outside]
    · have future : m.time ≤ f := Nat.le_of_not_le fun fired =>
        unfired (isCancelled_iff.2 ⟨f, outside, fired⟩)
      simp [Moment.fireAt, outside, Nat.min_eq_right future]
  · rcases outside : m.fires with _ | f
    · simp [Moment.fireAt, outside]
    · simp [Moment.fireAt, outside, Nat.min_eq_right (later f outside).1]

theorem heeds_of_ping {host : Host σ α} {limit : Duration} {a : Try σ α}
    (unfired : ¬a.pinged.isCancelled)
    (h : ping host limit a.pinged = .going (.ok ()) a.began) : a.Heeds host := by
  obtain ⟨inTime, seen, ended⟩ := ping_ok h
  have time : a.began.time = a.pinged.time + (host.ping a.pinged.time a.pinged.world).takes := by
    rw [ended, time_finish, Nat.min_eq_left inTime]
  rcases fires : (host.ping a.pinged.time a.pinged.world).fires with _ | firing
  · -- The ping left the token alone; it can only have fired from outside, and not before.
    have same : a.began.fires = a.pinged.fires := by
      rw [ended, fires_finish inTime, fires]
    have later := (of_interruption_eq_none seen).2
    rw [← time] at later
    refine ⟨unfired, fun f outside => (later f (same ▸ outside)).1, ?_⟩
    unfold Try.Tied
    dsimp only
    rw [isCancelled_iff, same, fires]
    constructor
    · rintro ⟨f, outside, fired⟩
      obtain ⟨before, heard⟩ := later f outside
      obtain rfl : f = a.began.time := Nat.le_antisymm fired before
      exact ⟨time, outside, .inr ⟨outside, heard rfl⟩⟩
    · rintro ⟨-, outside, -⟩
      exact ⟨_, outside, Nat.le_refl _⟩
  · have now : a.began.fires = some a.began.time := by
      rw [time, ended]
      exact fires_of_ping_fires unfired inTime seen (by rw [fires]; rfl)
    refine ⟨unfired, ?_, ?_⟩
    · rw [now]
      rintro f ⟨⟩
      exact Nat.le_refl _
    · unfold Try.Tied
      dsimp only
      rw [isCancelled_iff, now, fires]
      exact ⟨fun _ => ⟨time, rfl, .inl rfl⟩, fun _ => ⟨_, rfl, Nat.le_refl _⟩⟩

theorem runsOut_of_attempt {host : Host σ α} {p : Policy} {a : Try σ α}
    (h : attempt host p.attemptTimeout a.began = (a.result, a.ended)) : a.RunsOut host p := by
  have result : (host.attempt a.began.time a.began.world).bounded "payroll attempt"
      p.attemptTimeout (host.timers.lasts p.attemptTimeout) = a.result := congrArg Prod.fst h
  have ended : (host.attempt a.began.time a.began.world).finish
      (host.timers.lasts p.attemptTimeout) a.began = a.ended := congrArg Prod.snd h
  exact {
    result := by simp [← result, Reply.bounded, Reply.inTime]
    time := by rw [← ended, time_finish]
    world := by simp [← ended, world_finish, Reply.inTime] }

/-! ## All attempts of a cycle -/

variable {host : Host σ α} {p : Policy} {tokenFirst : Moment σ → Bool}

/-- Once the token has fired no attempt is made. -/
theorem tries_of_isCancelled {m : Moment σ} (h : m.isCancelled) (ds : List Duration)
    (number : Nat) : tries host p tokenFirst ds number m = [] := by
  cases ds with
  | nil => rfl
  | cons d ds =>
    rw [tries_cons, wait_of_isCancelled h]
    rfl

theorem pairwise_tries (ds : List Duration) (number : Nat) (m : Moment σ) :
    (tries host p tokenFirst ds number m).Pairwise fun a _ => ¬a.ended.isCancelled := by
  induction ds generalizing number m with
  | nil => exact .nil
  | cons d ds ih =>
    rw [tries_cons]
    refine List.pairwise_append.2 ⟨?_, ?_, ?_⟩
    · cases (round host p number (m.wait (host.timers.lasts d))).tried
      · exact .nil
      · exact List.pairwise_singleton _ _
    · split
      · exact ih _ _
      · exact .nil
    · intro a mine b later fired
      obtain ⟨-, -, -, ended⟩ := round_tried (Option.mem_toList.1 mine)
      split at later
      · rw [ended, tries_of_isCancelled fired] at later
        cases later
      · cases later

/-- If the token has fired when an attempt ends, it has when the cycle ends. -/
theorem isCancelled_rounds {ds : List Duration} {number : Nat} {last : Option Error} {m : Moment σ}
    {a : Try σ α} (h : a ∈ tries host p tokenFirst ds number m) (fired : a.ended.isCancelled) :
    (rounds host p ds number last m).2.isCancelled := by
  induction ds generalizing number last m with
  | nil => cases h
  | cons d ds ih =>
    rw [rounds_cons]
    rw [tries_cons] at h
    rcases List.mem_append.1 h with mine | later
    · obtain ⟨-, -, -, ended⟩ := round_tried (Option.mem_toList.1 mine)
      rw [ended]
      split
      · exact ((keeps_isCancelled host p).of_rounds _ _ _ _ fired).1
      · exact fired
    · rcases came : (round host p number (m.wait (host.timers.lasts d))).verdict with _ | _ <;>
        rw [came] at later
      · exact ih later
      · cases later

theorem orderly_tries (host : Host σ α) (p : Policy) (tokenFirst : Moment σ → Bool)
    (ds : List Duration) (number : Nat) (m : Moment σ) :
    Orderly host p (tries host p tokenFirst ds number m) where
  last := pairwise_tries ds number m
  heeds a ha := by
    obtain ⟨unfired, answered, -⟩ := of_mem_tries ha
    exact heeds_of_ping unfired answered
  runsOut a ha := by
    obtain ⟨-, -, tried⟩ := of_mem_tries ha
    exact runsOut_of_attempt tried

end Paymaster.Retry
