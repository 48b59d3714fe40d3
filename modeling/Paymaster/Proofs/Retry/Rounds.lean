import Paymaster.Proofs.Retry.Log

/-
  A cycle of attempts, round by round.
  Model (read this before the theorems). `round` is one round, once its wait is over: it pings and
  attempts, and comes to a verdict, on which the next round follows or the cycle ends
  (`rounds_cons`). A wait is a race of a timer with the token. When both are ready at once either
  may be taken, and after the timer the token is looked at once more (`Moment.race`); so the choice
  is of no account (`race_eq_wait`). `tries` lists the attempts of a cycle, each with the moments at
  which its ping began, at which it began itself and at which it ended. It lists just the attempts
  that the cycle makes (`attemptTimes_rounds`).
-/

namespace Paymaster.Retry

variable {σ α : Type}

/-! ## Waits -/

/-- A race of a timer with the token. If both are ready at once the token is taken just if
`tokenFirst`; a timer that is taken is followed by a look at the token. -/
def Moment.race (m : Moment σ) (d : Duration) (tokenFirst : Bool) : Progress σ Unit :=
  match m.fires with
  | none => .going () { m with time := m.time + d }
  | some f =>
    if f < m.time + d || (f = m.time + d && tokenFirst) then
      .cancelled { m with time := max m.time f }
    else
      let timed := { m with time := m.time + d }
      if timed.isCancelled then .cancelled timed else .going () timed

/-- Whichever is taken, the wait ends alike. -/
theorem race_eq_wait (m : Moment σ) (d : Duration) (tokenFirst : Bool) :
    m.race d tokenFirst = m.wait d := by
  unfold Moment.race Moment.wait
  rcases fires : m.fires with _ | f
  · rfl
  dsimp only
  rcases Nat.lt_trichotomy f (m.time + d) with before | same | after
  · rw [if_pos (by simp [before]), if_pos (Nat.le_of_lt before)]
  · subst same
    cases tokenFirst <;> simp [Moment.isCancelled]
  · have early : ¬f ≤ m.time + d := Nat.not_le_of_gt after
    have not_before : ¬f < m.time + d := Nat.lt_asymm after
    have other : ¬f = m.time + d := Nat.ne_of_gt after
    simp [Moment.isCancelled, early, not_before, other]

/-- A wait goes on only to a moment at which the token has not fired. -/
theorem not_isCancelled_of_wait {m m' : Moment σ} {d : Duration} {u : Unit}
    (h : m.wait d = .going u m') : ¬m'.isCancelled := by
  unfold Moment.wait at h
  rcases fires : m.fires with _ | f <;> rw [fires] at h <;> dsimp only at h
  · cases h
    exact Bool.false_ne_true
  · split at h
    · cases h
    · rename_i early
      cases h
      simpa [Moment.isCancelled] using early

/-- Once the token has fired no wait goes on. -/
theorem wait_of_isCancelled {m : Moment σ} (h : m.isCancelled) (d : Duration) :
    m.wait d = .cancelled m := by
  rcases m with ⟨time, _ | f, world⟩
  · cases h
  · have fired : f ≤ time := of_decide_eq_true h
    show (if f ≤ time + d then _ else _) = _
    rw [if_pos (Nat.le_trans fired (Nat.le_add_right _ _)), Nat.max_eq_left fired]

/-- Waiting leaves the world as it is. -/
theorem world_wait (m : Moment σ) (d : Duration) : (m.wait d).moment.world = m.world := by
  obtain ⟨t, -, same⟩ := exists_time_of_wait m d
  rw [same]

/-! ## Rounds -/

/-- One attempt, as it went. -/
structure Try (σ α : Type) where
  /-- The moment at which the ping before it began. -/
  pinged : Moment σ
  began : Moment σ
  result : Except Error α
  ended : Moment σ

/-- What a round comes to. -/
inductive Verdict (α : Type)
  /-- Another round is to follow, if one is left. -/
  | again (cause : Error)
  | over (outcome : Outcome α)

/-- What a result means to the cycle in whose round `number` it was reached. -/
def verdict (number : Nat) : Except Error α → Verdict α
  | .ok value => .over (.completed value)
  | .error e =>
    match e.kind with
    | .transient => .again e
    | .cancelled => .over .cancelled
    | .permanent => .over (.failed e number)

structure Round (σ α : Type) where
  tried : Option (Try σ α)
  verdict : Verdict α
  ended : Moment σ

/-- A round, once its wait is over. -/
def round (host : Host σ α) (p : Policy) (number : Nat) : Progress σ Unit → Round σ α
  | .cancelled m => ⟨none, .over .cancelled, m⟩
  | .going () m =>
    match ping host p.pingTimeout m with
    | .cancelled m' => ⟨none, .over .cancelled, m'⟩
    | .going (.error e) m' => ⟨none, .again (.unavailable e.message), m'⟩
    | .going (.ok ()) m' =>
      let (result, ended) := attempt host p.attemptTimeout m'
      ⟨some ⟨m, m', result, ended⟩, verdict number result, ended⟩

/-- The attempts of the rounds that are left, from round `number` on. `tokenFirst` says how each
race of a wait is decided if both sides are ready at once. -/
def tries (host : Host σ α) (p : Policy) (tokenFirst : Moment σ → Bool) :
    List Duration → Nat → Moment σ → List (Try σ α)
  | [], _, _ => []
  | d :: ds, number, m =>
    let r := round host p number (m.race (host.timers.lasts d) (tokenFirst m))
    r.tried.toList ++
      match r.verdict with
      | .again _ => tries host p tokenFirst ds (number + 1) r.ended
      | .over _ => []

variable {host : Host σ α} {p : Policy} {tokenFirst : Moment σ → Bool}

/-- A cycle is one round after the other. -/
theorem rounds_cons (host : Host σ α) (p : Policy) (d : Duration) (ds : List Duration)
    (number : Nat) (last : Option Error) (m : Moment σ) :
    rounds host p (d :: ds) number last m =
      match (round host p number (m.wait (host.timers.lasts d))).verdict with
      | .again e => rounds host p ds (number + 1) (some e)
          (round host p number (m.wait (host.timers.lasts d))).ended
      | .over outcome => (outcome, (round host p number (m.wait (host.timers.lasts d))).ended) := by
  rw [rounds]
  rcases m.wait (host.timers.lasts d) with ⟨_, m₁⟩ | m₁
  · dsimp only [round]
    rcases ping host p.pingTimeout m₁ with ⟨_ | _, m₂⟩ | m₂
    · rfl
    · dsimp only
      rcases attempt host p.attemptTimeout m₂ with ⟨e | value, m₃⟩
      · dsimp only [verdict]
        cases e.kind <;> rfl
      · rfl
    · rfl
  · rfl

theorem tries_cons (d : Duration) (ds : List Duration) (number : Nat) (m : Moment σ) :
    tries host p tokenFirst (d :: ds) number m =
      (round host p number (m.wait (host.timers.lasts d))).tried.toList ++
        match (round host p number (m.wait (host.timers.lasts d))).verdict with
        | .again _ => tries host p tokenFirst ds (number + 1)
            (round host p number (m.wait (host.timers.lasts d))).ended
        | .over _ => [] := by
  rw [tries, race_eq_wait]

/-- An attempt of a round came after a wait and a ping that went well. -/
theorem round_tried {number : Nat} {waited : Progress σ Unit} {a : Try σ α}
    (h : (round host p number waited).tried = some a) :
    waited = .going () a.pinged ∧ ping host p.pingTimeout a.pinged = .going (.ok ()) a.began ∧
      attempt host p.attemptTimeout a.began = (a.result, a.ended) ∧
        (round host p number waited).ended = a.ended := by
  rcases waited with ⟨_, m⟩ | m
  · unfold round at h ⊢
    dsimp only at h ⊢
    rcases answered : ping host p.pingTimeout m with ⟨_ | _, m'⟩ | m' <;> rw [answered] at h
    · cases h
    · cases h
      exact ⟨rfl, answered, rfl, rfl⟩
    · cases h
  · cases h

/-- Every listed attempt came about so: the token had not fired when its ping began. -/
theorem of_mem_tries {ds : List Duration} {number : Nat} {m : Moment σ} {a : Try σ α}
    (h : a ∈ tries host p tokenFirst ds number m) :
    ¬a.pinged.isCancelled ∧ ping host p.pingTimeout a.pinged = .going (.ok ()) a.began ∧
      attempt host p.attemptTimeout a.began = (a.result, a.ended) := by
  induction ds generalizing number m with
  | nil => cases h
  | cons d ds ih =>
    rw [tries_cons] at h
    rcases List.mem_append.1 h with mine | later
    · obtain ⟨waited, answered, tried, -⟩ := round_tried (Option.mem_toList.1 mine)
      exact ⟨not_isCancelled_of_wait waited, answered, tried⟩
    · split at later
      · exact ih later
      · cases later

/-! ## The list and the log -/

/-- The times at which the log says that attempts began. -/
def Logged.attemptTimes (w : Logged σ) : List Duration :=
  w.log.filterMap fun call => if call.1 = .attempt then some call.2 else none

theorem attemptTimes_note_ping (w : Logged σ) (t : Duration) (world : σ) :
    (w.note .ping t world).attemptTimes = w.attemptTimes := by
  simp [Logged.attemptTimes, Logged.note, List.filterMap_append]

theorem attemptTimes_note_attempt (w : Logged σ) (t : Duration) (world : σ) :
    (w.note .attempt t world).attemptTimes = w.attemptTimes ++ [t] := by
  simp [Logged.attemptTimes, Logged.note, List.filterMap_append]

theorem attemptTimes_ping (host : Host σ α) (limit : Duration) (m : Moment (Logged σ)) :
    (ping host.logged limit m).moment.world.attemptTimes = m.world.attemptTimes := by
  rcases world_ping host.logged limit m with same | same <;> rw [same] <;>
    exact attemptTimes_note_ping _ _ _

theorem attemptTimes_attempt (host : Host σ α) (limit : Duration) (m : Moment (Logged σ)) :
    (attempt host.logged limit m).2.world.attemptTimes = m.world.attemptTimes ++ [m.time] := by
  rcases world_attempt host.logged limit m with same | same <;> rw [same] <;>
    exact attemptTimes_note_attempt _ _ _

/-- A round logs its attempt. -/
theorem attemptTimes_round (host : Host σ α) (p : Policy) (number : Nat) (m : Moment (Logged σ))
    (d : Duration) :
    (round host.logged p number (m.wait d)).ended.world.attemptTimes = m.world.attemptTimes ++
      ((round host.logged p number (m.wait d)).tried.toList.map (·.began.time)) := by
  have waited := world_wait m d
  rcases went : m.wait d with ⟨_, m₁⟩ | m₁ <;> rw [went] at waited <;>
    replace waited : m₁.world = m.world := waited
  · have pinged := attemptTimes_ping host p.pingTimeout m₁
    rw [waited] at pinged
    dsimp only [round]
    rcases answered : ping host.logged p.pingTimeout m₁ with ⟨_ | _, m₂⟩ | m₂ <;>
      rw [answered] at pinged <;>
      replace pinged : m₂.world.attemptTimes = m.world.attemptTimes := pinged
    · simpa using pinged
    · simpa [pinged] using attemptTimes_attempt host p.attemptTimeout m₂
    · simpa using pinged
  · simpa [round] using congrArg Logged.attemptTimes waited

/-- The attempts that a cycle logs are those of the list. -/
theorem attemptTimes_rounds (host : Host σ α) (p : Policy) (tokenFirst : Moment (Logged σ) → Bool)
    (ds : List Duration) (number : Nat) (last : Option Error) (m : Moment (Logged σ)) :
    (rounds host.logged p ds number last m).2.world.attemptTimes = m.world.attemptTimes ++
      (tries host.logged p tokenFirst ds number m).map (·.began.time) := by
  induction ds generalizing number last m with
  | nil => simp [rounds, tries]
  | cons d ds ih =>
    have first := attemptTimes_round host p number m (host.timers.lasts d)
    rw [rounds_cons, tries_cons]
    rw [show host.logged.timers = host.timers from rfl]
    rcases (round host.logged p number (m.wait (host.timers.lasts d))).verdict with _ | _ <;>
      dsimp only
    · rw [ih, first, List.map_append, List.append_assoc]
    · rw [first, List.append_nil]

end Paymaster.Retry
