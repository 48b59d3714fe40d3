import Paymaster.Proofs.Error.Validation
import Paymaster.Proofs.Retry.Settling

/-
  Errors that no further attempt can mend.
  A fault of the caller and an attempt that ran past its bound are of the permanent kind, whatever
  stands in their messages (`kind_of_hopeless`). So a round whose attempt ends in one settles the
  cycle, and as a cycle makes no call after the first round that does, that attempt is the last
  call (`hopeless_not_retried`).
-/

namespace Paymaster

/-- The caller is at fault, or an attempt ran out of time. -/
def Error.IsHopeless (e : Error) : Prop := e.isValidation ∨ ∃ d, e = timeout "payroll attempt" d

theorem Error.kind_of_hopeless {e : Error} (h : e.IsHopeless) : e.kind = .permanent := by
  rcases h with fault | ⟨d, rfl⟩
  · exact kind_of_isValidation fault
  · exact kind_attemptTimeout d

theorem Error.not_isTransient_of_hopeless {e : Error} (h : e.IsHopeless) : ¬e.isTransient := by
  unfold isTransient
  rw [kind_of_hopeless h]
  decide

namespace Retry

variable {α : Type} {o : Answers α} {p : Policy}

/-- The attempts among the calls of `n` rounds are those of the rounds whose ping went well. -/
theorem attempt_mem_calls {n k : Nat} :
    (.attempt, k) ∈ o.calls p n ↔ (1 ≤ k ∧ k ≤ n) ∧ o.health p k = .ok () := by
  unfold Answers.calls Answers.callsIn
  rw [List.mem_flatMap]
  constructor
  · rintro ⟨i, round, call⟩
    rw [List.mem_range'_1] at round
    rcases health : o.health p i with cause | _ <;> rw [health] at call
    · simp at call
    · obtain rfl : k = i := by simpa using call
      exact ⟨by omega, health⟩
  · rintro ⟨round, healthy⟩
    refine ⟨k, List.mem_range'_1.2 (by omega), ?_⟩
    rw [healthy]
    simp

/-- The attempt of a round is the last call of its own and the rounds before. -/
theorem getLast?_calls {k : Nat} (positive : 1 ≤ k) (healthy : o.health p k = .ok ()) :
    (o.calls p k).getLast? = some (.attempt, k) := by
  obtain ⟨i, rfl⟩ : ∃ i, k = i + 1 := ⟨k - 1, (Nat.succ_pred_eq_of_pos positive).symm⟩
  have last : o.callsIn p (i + 1) = [(.ping, i + 1), (.attempt, i + 1)] := by
    unfold Answers.callsIn
    rw [healthy]
  rw [calls_succ, last, List.getLast?_append]
  rfl

/-- A cycle ends with the first attempt whose error is hopeless. -/
theorem Course.of_hopeless {n k : Nat} {r : Outcome α × Moment Tally} (h : Course o p n r)
    {e : Error} (hopeless : e.IsHopeless) (made : (.attempt, k) ∈ r.2.world.calls)
    (came : o.result p k = .error e) :
    r.1 = .failed e k ∧ r.2.world.calls = o.calls p k ∧
      r.2.world.calls.getLast? = some (.attempt, k) := by
  have settles (healthy : o.health p k = .ok ()) : o.Settles p k := by
    refine ⟨healthy, fun e' same => ?_⟩
    rw [came] at same
    cases same
    exact Error.not_isTransient_of_hopeless hopeless
  rcases exists_settled_or_unsettled o p n with ⟨i, first⟩ | none
  · obtain ⟨-, -, fails, calls⟩ := h.settled i first
    rw [calls] at made ⊢
    obtain ⟨⟨positive, upto⟩, healthy⟩ := attempt_mem_calls.1 made
    have within : k ≤ n := Nat.le_trans upto first.1.2.1
    have same : i = k := Nat.le_antisymm (first.2 ⟨positive, within, settles healthy⟩) upto
    have other : e ≠ .cancelled := fun token => by
      have kind := Error.kind_of_hopeless hopeless
      rw [token] at kind
      cases kind
    rw [same] at fails ⊢
    exact ⟨fails e other came, rfl, getLast?_calls positive healthy⟩
  · rw [(h.unsettled none).2] at made
    obtain ⟨⟨positive, within⟩, healthy⟩ := attempt_mem_calls.1 made
    exact absurd (settles healthy) (none k positive within)

/-- What retrying cannot mend is never retried. A fault of the caller is permanent, whatever its
amounts, ids and weights, and so is an attempt that ran past its bound, whatever the bound; no
error is a fault of the caller and transient at once. If the attempt of round `k` is made and ends
in such an error, the cycle fails with that very error in round `k`, and that attempt is the last
call of all. -/
theorem hopeless_not_retried :
    (∀ e : Error, e.isValidation → e.kind = .permanent) ∧
      (∀ bound, (Error.timeout "payroll attempt" bound).kind = .permanent) ∧
      (∀ e : Error, ¬(e.isValidation ∧ e.isTransient)) ∧
      ∀ (α : Type) (o : Answers α) (p : Policy) (t : Duration) (k : Nat) (e : Error),
        e.IsHopeless → (.attempt, k) ∈ (run o.host p ⟨t, none, {}⟩).2.world.calls →
          o.result p k = .error e →
            (run o.host p ⟨t, none, {}⟩).1 = .failed e k ∧
              (run o.host p ⟨t, none, {}⟩).2.world.calls = o.calls p k ∧
              (run o.host p ⟨t, none, {}⟩).2.world.calls.getLast? = some (.attempt, k) :=
  ⟨fun _ fault => Error.kind_of_isValidation fault, Error.kind_attemptTimeout,
    fun _ both => Error.not_isTransient_of_hopeless (.inl both.1) both.2,
    fun _ o p t _ _ hopeless made came => (course_run o p t).of_hopeless hopeless made came⟩

/-- The first attempt loses its connection, and the second finds a source listed twice. -/
def listedTwice : Answers Int where
  ping _ := ⟨.ok (), .ofMillis 5⟩
  attempt i := ⟨.error (if i = 2 then .duplicateSource 3 else .database .acquireClosed), 0⟩

theorem hopeless_not_retried_listedTwice :
    (Error.duplicateSource 3).IsHopeless ∧
      (.attempt, 2) ∈ (run listedTwice.host .standard ⟨0, none, {}⟩).2.world.calls ∧
      listedTwice.result .standard 2 = .error (.duplicateSource 3) ∧
      (run listedTwice.host .standard ⟨0, none, {}⟩).1 = .failed (.duplicateSource 3) 2 ∧
      (run listedTwice.host .standard ⟨0, none, {}⟩).2.world.calls =
        [(.ping, 1), (.attempt, 1), (.ping, 2), (.attempt, 2)] := by
  have hopeless : (Error.duplicateSource 3).IsHopeless := .inl rfl
  have made : (.attempt, 2) ∈ (run listedTwice.host .standard ⟨0, none, {}⟩).2.world.calls := by
    decide
  obtain ⟨outcome, calls, -⟩ :=
    hopeless_not_retried.2.2.2 Int listedTwice .standard 0 2 _ hopeless made rfl
  refine ⟨hopeless, made, rfl, outcome, ?_⟩
  rw [calls]
  rfl

end Retry

end Paymaster
