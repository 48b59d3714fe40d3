import Paymaster.Proofs.Ledger.Following
import Paymaster.Proofs.Payroll.Runs

/-
  What paying leaves behind, also when it fails half way.
  Paying a budget puts entries into the ledger and sets a run marker, one statement after the other,
  and may be refused at each of them. A relation between stores that no such statement breaks holds
  between the store before and the one that is left, wherever it stopped: for one budget
  (`follows_apply`), for a list of them (`follows_applyAll`), and for whole runs
  (`Run.leaves_count`).
-/

namespace Paymaster.Payroll

open Ledger LedgerM

/-! ## One budget -/

/-- The relation may be taken in steps, and one of them may put an entry into the ledger. -/
structure AllowsEntries (R : Store → Store → Prop) : Prop extends Stepwise R where
  posts : ∀ {now e s t}, Wrote now [e] [] s t → e.amount.isPositive →
    s.lastEntry < t.lastEntry → R s t

/-- A step may also set a run marker. -/
structure AllowsWrites (R : Store → Store → Prop) : Prop extends AllowsEntries R where
  stamps : ∀ {now id runAt s t}, Wrote now [] [(id, runAt)] s t → R s t

section
variable {R : Store → Store → Prop}

theorem follows_insertEntry (allows : AllowsEntries R) (e : NewEntry) (now : Instant) :
    Follows R (insertEntry e now) := by
  refine ⟨confined_insertEntry e now, fun s => ?_⟩
  have outcome := onStore_insertEntry e now s
  split at outcome
  · rw [outcome]
    exact allows.refl s
  · obtain ⟨r, t, done⟩ := outcome
    obtain ⟨wrote, positive, -, -, later⟩ := insertEntry_ok done
    rw [done]
    exact allows.posts wrote positive later

theorem follows_debitSources (allows : AllowsEntries R) (description : String) (now : Instant)
    (parts : List (BudgetId × Int)) : Follows R (debitSources description now parts) := by
  have steps := allows.toStepwise
  induction parts with
  | nil => exact follows_pure steps _
  | cons part parts ih =>
    simp only [debitSources]
    have rest (amount : Money) : Follows R (do
        let _ ← insertEntry (.system part.1 description .debit amount) now
        let debits ← debitSources description now parts
        pure (⟨part.1, amount⟩ :: debits)) :=
      (follows_insertEntry allows _ _).bind steps fun _ =>
        ih.bind steps fun _ => follows_pure steps _
    split
    · exact ih
    · split
      · exact (follows_pure steps _).bind steps rest
      · exact (follows_throw steps _).bind steps rest

theorem follows_coverDeficit (allows : AllowsEntries R) (b : Budget) (now : Instant) :
    Follows R (coverDeficit b now) := by
  have steps := allows.toStepwise
  have balance : Follows R (currentBalance b.id) := by
    refine follows_statement steps fun s total t read => ?_
    rcases sum : s.balance b.id with cause | total' <;> simp only [sum] at read <;> cases read
    exact steps.refl s
  refine balance.bind steps fun balance => ?_
  split
  · exact follows_pure steps _
  refine (follows_query steps _).bind steps fun sources =>
    (follows_debitSources allows _ _ _).bind steps fun debits =>
      (follows_checked steps _).bind steps fun total => ?_
  split
  · exact follows_pure steps _
  · exact (follows_insertEntry allows _ _).bind steps fun _ => follows_pure steps _

theorem follows_transferFor (allows : AllowsEntries R) (b : Budget) (now : Instant) :
    Follows R (transferFor b now) := by
  unfold transferFor
  split
  · exact follows_coverDeficit allows b now
  · exact follows_pure allows.toStepwise _

theorem follows_apply (allows : AllowsWrites R) (b : Budget) (period : Period) (force : Bool) :
    Follows R (apply b period force) := by
  have steps := allows.toStepwise
  have marks (runAt : Instant) : Follows R (markRun b.id runAt) :=
    ⟨confined_markRun _ _, fun s => allows.stamps (wrote_markRun period.now b.id runAt s)⟩
  rw [apply_eq]
  split
  · exact (follows_transferFor allows.toAllowsEntries _ _).bind steps fun _ =>
      (follows_insertEntry allows.toAllowsEntries _ _).bind steps fun _ =>
        (marks _).bind steps fun _ => follows_pure steps _
  · exact follows_pure steps _

/-! ## Runs -/

theorem follows_applyAll (allows : AllowsWrites R) (period : Period) (bs : List Budget) :
    Follows R (applyAll period bs) := by
  have steps := allows.toStepwise
  induction bs with
  | nil => exact follows_pure steps _
  | cons b bs ih =>
    exact (follows_apply allows _ _ _).bind steps fun _ => ih.bind steps fun _ =>
      follows_pure steps _

theorem follows_lockBudget (steps : Stepwise R) (id : BudgetId) : Follows R (lockBudget id) := by
  refine (follows_query steps _).bind steps fun found => ?_
  split
  · exact follows_pure steps _
  · exact follows_throw steps _

theorem follows_payOne (allows : AllowsWrites R) (id : BudgetId) (force : Bool) (period : Period) :
    Follows R (payOne id force period) := by
  have steps := allows.toStepwise
  exact (follows_lockBudget steps id).bind steps fun b =>
    (follows_apply allows b period force).bind steps fun _ => follows_pure steps _

theorem Run.follows_work (allows : AllowsWrites R) (period : Period) (r : Run) :
    Follows R (r.work period) := by
  cases r
  · exact (follows_query allows.toStepwise _).bind allows.toStepwise fun _ =>
      follows_applyAll allows _ _
  · exact follows_payOne allows _ _ period

/-- A run leaves every store in the relation, whether it is kept or undone. -/
theorem Run.leaves_count (allows : AllowsWrites R) (z : Zone) (now : Instant) (r : Run) :
    Leaves R (r.count z now) := by
  have report : Leaves R (r.report z now) := by
    rw [report_eq]
    exact (r.reads_opening z now).leaves_bind allows.toStepwise fun period =>
      (r.follows_work allows period).leaves_transaction allows.toStepwise
  cases r <;> exact report.bind_pure List.length

end

end Paymaster.Payroll
