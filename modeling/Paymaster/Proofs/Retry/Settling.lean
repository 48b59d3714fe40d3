import Mathlib.Data.Nat.Find
import Mathlib.Order.Bounds.Defs
import Paymaster.Proofs.Error.Kinds
import Paymaster.Proofs.Retry.Rounds

/-
  A cycle whose token never fires.
  Model (read this before the theorems). `Answers` gives for every round what its ping and its
  attempt come to and how long they take; the calls that a cycle makes are tallied with their
  rounds. A round settles the cycle when its ping goes well and its attempt ends in anything but a
  transient error, both within their bounds (`Answers.Settles`); otherwise it leaves an error
  (`Answers.Leaves`). What a cycle makes of a round is what the answers say of that round alone
  (`round_answers`). So rounds that do not settle are passed (`Passed.rounds`); the first one that
  does ends the cycle (`run_settle`), and if there is none the last one leaves its error
  (`run_leaves`). `run_answers` puts this together.
-/

namespace Paymaster.Retry

variable {α β τ : Type}

/-! ## Answers -/

/-- What a call gives, and how long it takes to. -/
structure Answer (β : Type) where
  result : Except Error β
  takes : Duration

/-- What a caller gets who waits for no longer than `limit`. -/
def Answer.within (a : Answer β) (operation : String) (limit : Duration) : Except Error β :=
  if a.takes ≤ limit then a.result else .error (.timeout operation limit)

def Answer.reply (a : Answer β) (world : τ) : Reply τ β where
  result := a.result
  takes := a.takes
  after := world
  abandoned := world

/-- What the ping and the attempt of each round come to, if they are made. -/
structure Answers (α : Type) where
  ping : Nat → Answer Unit
  attempt : Nat → Answer α

/-- The round that a cycle is in, and the calls made so far with their rounds, in order. -/
structure Tally where
  round : Nat := 0
  calls : List (CallKind × Nat) := []

namespace Answers

/-- A ping begins the next round. -/
def host (o : Answers α) : Host Tally α where
  ping _ w := (o.ping (w.round + 1)).reply ⟨w.round + 1, w.calls ++ [(.ping, w.round + 1)]⟩
  attempt _ w := (o.attempt w.round).reply ⟨w.round, w.calls ++ [(.attempt, w.round)]⟩

variable (o : Answers α) (p : Policy)

def health (i : Nat) : Except Error Unit := (o.ping i).within "database ping" p.pingTimeout

def result (i : Nat) : Except Error α := (o.attempt i).within "payroll attempt" p.attemptTimeout

/-- Round `i` ends the cycle. -/
def Settles (i : Nat) : Prop :=
  o.health p i = .ok () ∧ ∀ e, o.result p i = .error e → ¬e.isTransient

/-- Round `i` leaves the error `e` behind. -/
def Leaves (i : Nat) (e : Error) : Prop :=
  (∃ cause, o.health p i = .error cause ∧ e = .unavailable cause.message) ∨
    o.health p i = .ok () ∧ o.result p i = .error e

/-- The calls of round `i`. -/
def callsIn (i : Nat) : List (CallKind × Nat) :=
  match o.health p i with
  | .ok () => [(.ping, i), (.attempt, i)]
  | .error _ => [(.ping, i)]

/-- The calls of the first `n` rounds. -/
def calls (n : Nat) : List (CallKind × Nat) := (List.range' 1 n).flatMap (o.callsIn p)

/-- What round `i` means to the cycle. -/
def verdict (i : Nat) : Verdict α :=
  match o.health p i with
  | .ok () => Retry.verdict i (o.result p i)
  | .error cause => .again (.unavailable cause.message)

end Answers

/-- How a cycle ends with the result of its round `k`. -/
def conclusion (k : Nat) : Except Error α → Outcome α
  | .ok value => .completed value
  | .error .cancelled => .cancelled
  | .error e => .failed e k

/-! ## One round -/

variable {o : Answers α} {p : Policy}

theorem conclusion_error {e : Error} (h : e ≠ .cancelled) (k : Nat) :
    (conclusion k (.error e) : Outcome α) = .failed e k := by
  cases e with
  | cancelled => exact absurd rfl h
  | _ => rfl

theorem verdict_of_settles {i : Nat} (h : o.Settles p i) :
    o.verdict p i = .over (conclusion i (o.result p i)) := by
  obtain ⟨healthy, final⟩ := h
  unfold Answers.verdict
  rw [healthy]
  dsimp only
  rcases came : o.result p i with e | value
  · unfold verdict
    dsimp only
    rcases kind : e.kind with _ | _ | _
    · exact absurd (decide_eq_true kind) (final e came)
    · have other : e ≠ .cancelled := fun same => by
        rw [Error.kind_eq_cancelled.2 same] at kind
        cases kind
      rw [conclusion_error other]
    · rw [Error.kind_eq_cancelled.1 kind]
      rfl
  · rfl

theorem exists_leaves {i : Nat} (h : ¬o.Settles p i) :
    ∃ e, o.Leaves p i e ∧ o.verdict p i = .again e := by
  unfold Answers.verdict
  rcases health : o.health p i with cause | _
  · exact ⟨_, .inl ⟨cause, health, rfl⟩, rfl⟩
  · rcases came : o.result p i with e | value
    · have transient : e.isTransient := Decidable.byContradiction fun final =>
        h ⟨health, fun e' same => by
          rw [came] at same
          cases same
          exact final⟩
      refine ⟨e, .inr ⟨health, came⟩, ?_⟩
      unfold verdict
      dsimp only
      rw [of_decide_eq_true transient]
    · refine absurd ⟨health, fun e same => ?_⟩ h
      rw [came] at same
      cases same

theorem bounded_reply (a : Answer β) (world : τ) (operation : String) (limit : Duration) :
    (a.reply world).bounded operation limit limit = a.within operation limit := by
  by_cases inTime : a.takes ≤ limit <;>
    simp [Reply.bounded, Reply.inTime, Answer.reply, Answer.within, inTime]

theorem finish_reply (a : Answer β) (world : τ) (lasts : Duration) (m : Moment τ) :
    (a.reply world).finish lasts m = ⟨m.time + min a.takes lasts, m.fires, world⟩ := by
  by_cases inTime : a.takes ≤ lasts
  · simp [Reply.finish, Reply.inTime, Answer.reply, inTime]
  · have late : lasts ≤ a.takes := Nat.le_of_not_le inTime
    simp [Reply.finish, Reply.inTime, Answer.reply, inTime, late]

/-- No token interrupts the ping of the next round. -/
theorem ping_answers (o : Answers α) (p : Policy) (t : Duration) (w : Tally) :
    ∃ t', ping o.host p.pingTimeout ⟨t, none, w⟩ = .going (o.health p (w.round + 1))
      ⟨t', none, w.round + 1, w.calls ++ [(.ping, w.round + 1)]⟩ := by
  refine ⟨t + min (o.ping (w.round + 1)).takes p.pingTimeout, ?_⟩
  unfold ping Answers.host
  dsimp only [Timers.exact]
  rw [bounded_reply, finish_reply]
  rfl

theorem attempt_answers (o : Answers α) (p : Policy) (t : Duration) (w : Tally) :
    ∃ t', attempt o.host p.attemptTimeout ⟨t, none, w⟩ =
      (o.result p w.round, ⟨t', none, w.round, w.calls ++ [(.attempt, w.round)]⟩) := by
  refine ⟨t + min (o.attempt w.round).takes p.attemptTimeout, ?_⟩
  unfold attempt Answers.host
  dsimp only [Timers.exact]
  rw [bounded_reply, finish_reply]
  rfl

/-- A round comes to what the answers say of it, and makes their calls. -/
theorem round_answers (o : Answers α) (p : Policy) (t d : Duration) (w : Tally) :
    let r := round o.host p (w.round + 1) (Moment.wait ⟨t, none, w⟩ d)
    r.verdict = o.verdict p (w.round + 1) ∧ r.ended.fires = none ∧
      r.ended.world = ⟨w.round + 1, w.calls ++ o.callsIn p (w.round + 1)⟩ := by
  have waited : Moment.wait ⟨t, none, w⟩ d = .going () ⟨t + d, none, w⟩ := rfl
  obtain ⟨t₁, pinged⟩ := ping_answers o p (t + d) w
  rw [waited]
  unfold round Answers.verdict Answers.callsIn
  dsimp only
  rw [pinged]
  rcases o.health p (w.round + 1) with cause | _
  · exact ⟨rfl, rfl, rfl⟩
  · obtain ⟨t₂, tried⟩ := attempt_answers o p t₁ ⟨w.round + 1, w.calls ++ [(.ping, w.round + 1)]⟩
    dsimp only
    rw [tried]
    refine ⟨rfl, rfl, ?_⟩
    rw [List.append_assoc]
    rfl

/-! ## All rounds -/

theorem calls_succ (o : Answers α) (p : Policy) (n : Nat) :
    o.calls p (n + 1) = o.calls p n ++ o.callsIn p (n + 1) := by
  unfold Answers.calls
  rw [List.range'_concat, List.flatMap_append, Nat.one_mul, Nat.add_comm 1 n]
  simp

/-- After `i` rounds that did not settle: their calls are made, and the last of them left `last`. -/
structure Passed (o : Answers α) (p : Policy) (i : Nat) (last : Option Error) (m : Moment Tally) :
    Prop where
  idle : m.fires = none
  tally : m.world = ⟨i, o.calls p i⟩
  left : 0 < i → ∃ e, o.Leaves p i e ∧ last = some e

/-- The next round, once others are passed. -/
theorem Passed.round {i : Nat} {last : Option Error} {m : Moment Tally} (h : Passed o p i last m)
    (d : Duration) :
    let r := Retry.round o.host p (i + 1) (m.wait d)
    r.verdict = o.verdict p (i + 1) ∧ r.ended.fires = none ∧
      r.ended.world = ⟨i + 1, o.calls p (i + 1)⟩ := by
  obtain ⟨t, fires, w⟩ := m
  obtain ⟨rfl, rfl, -⟩ := h
  rw [calls_succ]
  exact round_answers o p t d ⟨i, o.calls p i⟩

/-- Rounds that do not settle are passed too. -/
theorem Passed.rounds {i : Nat} {last : Option Error} {m : Moment Tally} (h : Passed o p i last m)
    (ds rest : List Duration) (unsettled : ∀ j, i < j → j ≤ i + ds.length → ¬o.Settles p j) :
    ∃ last' m', Passed o p (i + ds.length) last' m' ∧
      Retry.rounds o.host p (ds ++ rest) (i + 1) last m =
        Retry.rounds o.host p rest (i + ds.length + 1) last' m' := by
  induction ds generalizing i last m with
  | nil => exact ⟨last, m, h, rfl⟩
  | cons d ds ih =>
    obtain ⟨e, leaves, again⟩ := exists_leaves (unsettled (i + 1) (Nat.lt_succ_self i) (by simp))
    obtain ⟨verdict, idle, tally⟩ := h.round (o.host.timers.lasts d)
    have next := Passed.mk idle tally fun _ => ⟨e, leaves, rfl⟩
    have length : i + (d :: ds).length = i + 1 + ds.length := by
      rw [List.length_cons]
      omega
    rw [length] at unsettled ⊢
    obtain ⟨last', m', passed, course⟩ := ih next fun j after => unsettled j (by omega)
    refine ⟨last', m', passed, ?_⟩
    rw [List.cons_append, rounds_cons, verdict, again]
    exact course

/-- A round that settles ends the cycle. -/
theorem Passed.settle {i : Nat} {last : Option Error} {m : Moment Tally} (h : Passed o p i last m)
    (d : Duration) (rest : List Duration) (settles : o.Settles p (i + 1)) :
    (Retry.rounds o.host p (d :: rest) (i + 1) last m).1 =
        conclusion (i + 1) (o.result p (i + 1)) ∧
      (Retry.rounds o.host p (d :: rest) (i + 1) last m).2.world.calls = o.calls p (i + 1) := by
  obtain ⟨verdict, -, tally⟩ := h.round (o.host.timers.lasts d)
  rw [rounds_cons, verdict, verdict_of_settles settles]
  exact ⟨rfl, congrArg Tally.calls tally⟩

theorem passed_start (o : Answers α) (p : Policy) (t : Duration) :
    Passed o p 0 none ⟨t, none, {}⟩ where
  idle := rfl
  tally := rfl
  left none := absurd none (Nat.lt_irrefl 0)

/-- The first round that settles ends the cycle. -/
theorem run_settle (t : Duration) {i : Nat} (within : i < p.schedule.length)
    (earlier : ∀ j, 0 < j → j ≤ i → ¬o.Settles p j) (settles : o.Settles p (i + 1)) :
    (run o.host p ⟨t, none, {}⟩).1 = conclusion (i + 1) (o.result p (i + 1)) ∧
      (run o.host p ⟨t, none, {}⟩).2.world.calls = o.calls p (i + 1) := by
  have split : p.schedule = p.schedule.take i ++ p.schedule[i] :: p.schedule.drop (i + 1) := by
    rw [List.getElem_cons_drop, List.take_append_drop]
  have length : 0 + (p.schedule.take i).length = i := by
    rw [List.length_take_of_le (Nat.le_of_lt within), Nat.zero_add]
  obtain ⟨last, m, passed, course⟩ := (passed_start o p t).rounds (p.schedule.take i)
    (p.schedule[i] :: p.schedule.drop (i + 1)) (by rw [length]; exact earlier)
  rw [length] at passed course
  rw [← split] at course
  unfold run
  rw [course]
  exact passed.settle p.schedule[i] (p.schedule.drop (i + 1)) settles

/-- If no round settles, the last one leaves its error. -/
theorem run_leaves (t : Duration)
    (unsettled : ∀ j, 0 < j → j ≤ p.schedule.length → ¬o.Settles p j) :
    (∃ e, o.Leaves p p.schedule.length e ∧
        (run o.host p ⟨t, none, {}⟩).1 = .failed e p.schedule.length) ∧
      (run o.host p ⟨t, none, {}⟩).2.world.calls = o.calls p p.schedule.length := by
  obtain ⟨last, m, passed, course⟩ := (passed_start o p t).rounds p.schedule [] fun j after upto =>
    unsettled j after (by omega)
  rw [Nat.zero_add] at passed course
  obtain ⟨e, leaves, rfl⟩ := passed.left (List.length_pos_iff.2 p.schedule_ne_nil)
  rw [List.append_nil] at course
  unfold run
  rw [course]
  exact ⟨⟨e, leaves, rfl⟩, congrArg Tally.calls passed.tally⟩

/-- The course of a cycle of `n` rounds. -/
structure Course (o : Answers α) (p : Policy) (n : Nat) (r : Outcome α × Moment Tally) :
    Prop where
  /-- The first round that settles gives the outcome. -/
  settled : ∀ k, IsLeast {i | 1 ≤ i ∧ i ≤ n ∧ o.Settles p i} k →
    (∀ value, o.result p k = .ok value → r.1 = .completed value) ∧
    (o.result p k = .error .cancelled → r.1 = .cancelled) ∧
    (∀ e, e ≠ .cancelled → o.result p k = .error e → r.1 = .failed e k) ∧
    r.2.world.calls = o.calls p k
  /-- If none does, the error of the last one is reported. -/
  unsettled : (∀ i, 1 ≤ i → i ≤ n → ¬o.Settles p i) →
    (∃ e, o.Leaves p n e ∧ r.1 = .failed e n) ∧ r.2.world.calls = o.calls p n

theorem length_schedule (p : Policy) : p.schedule.length = max 1 p.backoffs.length := by
  unfold Policy.schedule
  split
  · rename_i none
    rw [List.isEmpty_iff.1 none]
    rfl
  · rename_i some
    rw [Nat.max_eq_right]
    exact List.length_pos_iff.2 fun none => some (List.isEmpty_iff.2 none)

theorem course_run (o : Answers α) (p : Policy) (t : Duration) :
    Course o p (max 1 p.backoffs.length) (run o.host p ⟨t, none, {}⟩) := by
  rw [← length_schedule]
  refine ⟨?_, run_leaves t⟩
  rintro k ⟨⟨positive, within, settles⟩, least⟩
  obtain ⟨i, rfl⟩ : ∃ i, k = i + 1 := ⟨k - 1, (Nat.succ_pred_eq_of_pos positive).symm⟩
  have earlier (j : Nat) (after : 0 < j) (upto : j ≤ i) : ¬o.Settles p j := fun settled =>
    absurd (least ⟨after, by omega, settled⟩) (by omega)
  obtain ⟨outcome, calls⟩ := run_settle t within earlier settles
  refine ⟨fun value came => ?_, fun came => ?_, fun e other came => ?_, calls⟩
  · rw [outcome, came]
    rfl
  · rw [outcome, came]
    rfl
  · rw [outcome, came, conclusion_error other]

/-- Either a round settles, and then there is a first one, or none does. -/
theorem exists_settled_or_unsettled (o : Answers α) (p : Policy) (n : Nat) :
    (∃ k, IsLeast {i | 1 ≤ i ∧ i ≤ n ∧ o.Settles p i} k) ∨
      ∀ i, 1 ≤ i → i ≤ n → ¬o.Settles p i := by
  classical
  by_cases some : ∃ i, 1 ≤ i ∧ i ≤ n ∧ o.Settles p i
  · exact .inl ⟨Nat.find some, Nat.find_spec some, fun i found => Nat.find_min' some found⟩
  · exact .inr fun i positive within settles => some ⟨i, positive, within, settles⟩

/-- No course makes up an error of its own: what would be reported of a cycle without rounds is
reported only if an attempt gave it. -/
theorem Course.noAttempts {n : Nat} {r : Outcome α × Moment Tally} (h : Course o p n r)
    {attempts : Nat} (failed : r.1 = .failed (.unavailable "no attempts were made") attempts) :
    o.health p attempts = .ok () ∧
      o.result p attempts = .error (.unavailable "no attempts were made") := by
  rcases exists_settled_or_unsettled o p n with ⟨k, first⟩ | none
  · obtain ⟨completed, cancelled, other, -⟩ := h.settled k first
    obtain ⟨⟨-, -, healthy, -⟩, -⟩ := first
    rcases came : o.result p k with e | value
    · by_cases token : e = .cancelled
      · rw [cancelled (token ▸ came)] at failed
        cases failed
      · rw [other e token came] at failed
        cases failed
        exact ⟨healthy, came⟩
    · rw [completed value came] at failed
      cases failed
  · obtain ⟨⟨e, leaves, last⟩, -⟩ := h.unsettled none
    rw [last] at failed
    cases failed
    rcases leaves with ⟨cause, -, same⟩ | own
    · injection same with same
      exact absurd same.symm cause.message_ne_noAttempts
    · exact own

theorem result_of_late {i : Nat} (late : p.attemptTimeout < (o.attempt i).takes) :
    o.result p i = .error (.timeout "payroll attempt" p.attemptTimeout) :=
  if_neg (Nat.not_le_of_gt late)

/-- What a cycle comes to whose token never fires, for any policy and any answers: the first round
that settles gives the outcome, and if there is none the last one leaves its error; only the calls
of these rounds are made. An attempt that runs past its bound fails for good, and the cycle has no
errors but those of its rounds. -/
theorem run_answers (o : Answers α) (p : Policy) (t : Duration) :
    Course o p (max 1 p.backoffs.length) (run o.host p ⟨t, none, {}⟩) ∧
      (∀ i, p.attemptTimeout < (o.attempt i).takes →
        o.result p i = .error (.timeout "payroll attempt" p.attemptTimeout) ∧
          (Error.timeout "payroll attempt" p.attemptTimeout).kind = .permanent) ∧
      ∀ attempts, (run o.host p ⟨t, none, {}⟩).1 =
          .failed (.unavailable "no attempts were made") attempts →
        o.health p attempts = .ok () ∧
          o.result p attempts = .error (.unavailable "no attempts were made") :=
  ⟨course_run o p t, fun _ late => ⟨result_of_late late, Error.kind_attemptTimeout _⟩,
    fun _ => (course_run o p t).noAttempts⟩

/-- A ping that fails, an attempt whose connection drops, and one that goes well. -/
def recovering : Answers Int where
  ping i := ⟨if i = 1 then .error (.database .acquireTimeout) else .ok (), 0⟩
  attempt i := ⟨if i = 3 then .ok 7 else .error (.database .acquireClosed), .ofMillis 20⟩

example :
    (run recovering.host .standard ⟨0, none, {}⟩).1 = .completed 7 ∧
      (run recovering.host .standard ⟨0, none, {}⟩).2.world.calls =
        [(.ping, 1), (.ping, 2), (.attempt, 2), (.ping, 3), (.attempt, 3)] := by
  decide

end Paymaster.Retry
