import Paymaster.Proofs.Allocation.Weights
import Paymaster.Proofs.Payroll.HalfWay

/-
  One payment on two stores.
  Model (read this before the theorems). Two stores are compared by a relation, and on each side
  some failures excuse it from keeping up with the other (`Comparison`). An operation keeps the
  two `Together` if one side fails with an excuse, or both give the same answer and leave stores
  that are related again. What is built from such operations is one (`Together.bind`).

  A payment looks at the row, the balance and the edges of its budget, and writes entries for the
  budget and for sources with weight. So a comparison goes through it if related stores have these
  edges in common, take the same entries, and stay related when the same is written to each
  (`Comparison.Carries`). Then the row and the balance decide the rest (`together_payOne`).
-/

namespace Paymaster

/-- A row but for the time of its last change. -/
def Budget.undated (b : Budget) : Budget := { b with updatedAt := Instant.first }

namespace Payroll

open Ledger LedgerM

/-! ## Operations on two stores -/

/-- Which stores are compared, and the failures on either side that end the comparison. -/
structure Comparison where
  related : Store → Store → Prop
  excuse : Failure → Prop
  excuse' : Failure → Prop

/-- One side is excused, or both answer the same and leave related stores. -/
def Comparison.Together {α : Type} (c : Comparison) (m : LedgerM α) (s s' : Store) : Prop :=
  (∃ failure, (m.onStore s).1 = .error failure ∧ c.excuse failure) ∨
    (∃ failure, (m.onStore s').1 = .error failure ∧ c.excuse' failure) ∨
      (m.onStore s').1 = (m.onStore s).1 ∧ c.related (m.onStore s).2 (m.onStore s').2

section
variable {α β : Type} {c : Comparison} {s s' : Store}

theorem together_pure (rel : c.related s s') (a : α) : c.Together (pure a) s s' :=
  .inr (.inr ⟨rfl, rel⟩)

theorem together_throw (rel : c.related s s') (failure : Failure) :
    c.Together (throw failure : LedgerM α) s s' := .inr (.inr ⟨rfl, rel⟩)

theorem together_checked (rel : c.related s s') (x : Except Overflow α) :
    c.Together (checked x) s s' := by
  cases x
  · exact together_throw rel _
  · exact together_pure rel _

theorem Comparison.Together.bind {m : LedgerM α} {k : α → LedgerM β} (h : c.Together m s s')
    (confined : m.Confined) (hk : ∀ a t t', c.related t t' → c.Together (k a) t t') :
    c.Together (m >>= k) s s' := by
  unfold Together at *
  rw [confined.onStore_bind, confined.onStore_bind]
  rcases one : m.onStore s with ⟨r, t⟩
  rcases other : m.onStore s' with ⟨r', t'⟩
  rw [one, other] at h
  rcases h with ⟨failure, fails, excused⟩ | ⟨failure, fails, excused⟩ | ⟨same, rel⟩
  · obtain rfl : r = .error failure := fails
    exact .inl ⟨failure, rfl, excused⟩
  · obtain rfl : r' = .error failure := fails
    exact .inr (.inl ⟨failure, rfl, excused⟩)
  · obtain rfl : r' = r := same
    rcases r' with failure | a
    · exact .inr (.inr ⟨rfl, rel⟩)
    · exact hk a t t' rel

end

/-! ## Comparisons that go through a payment -/

/-- The comparison goes through a payment of the budget `id`, for which the `payers` are asked. -/
structure Comparison.Carries (c : Comparison) (id : BudgetId) (payers : BudgetId → Prop) :
    Prop where
  self : payers id
  present : ∀ {s s'}, c.related s s' → s'.hasBudget id = s.hasBudget id
  sources : ∀ {s s'}, c.related s s' → s'.sourcesOf id = s.sourcesOf id
  drawn : ∀ {s s'}, c.related s s' → ∀ e ∈ s.sourcesOf id, payers e.source
  refuses : ∀ {s s'}, c.related s s' → ∀ e : NewEntry, payers e.budget →
    (∃ failure, refusal e s = some failure ∧ c.excuse failure) ∨
      (∃ failure, refusal e s' = some failure ∧ c.excuse' failure) ∨ refusal e s' = refusal e s
  posts : ∀ {now e s s' t t'}, c.related s s' → Wrote now [e] [] s t → Wrote now [e] [] s' t' →
    s'.lastEntry < t'.lastEntry → c.related t t'
  stamps : ∀ {now runAt s s' t t'}, c.related s s' → Wrote now [] [(id, runAt)] s t →
    Wrote now [] [(id, runAt)] s' t' → c.related t t'

section
variable {β : Type} {c : Comparison} {id : BudgetId} {payers : BudgetId → Prop} {s s' : Store}

/-- What follows an entry does not look at the record of it, in which the two sides may differ. -/
theorem together_insertEntry_bind (carries : c.Carries id payers) (rel : c.related s s')
    {e : NewEntry} (asked : payers e.budget) (now : Instant) {k : LedgerM β}
    (hk : ∀ t t', c.related t t' → c.Together k t t') :
    c.Together (insertEntry e now >>= fun _ => k) s s' := by
  unfold Comparison.Together
  rw [(confined_insertEntry e now).onStore_bind, (confined_insertEntry e now).onStore_bind]
  have one := onStore_insertEntry e now s
  have other := onStore_insertEntry e now s'
  rcases carries.refuses rel e asked with
    ⟨failure, refused, excused⟩ | ⟨failure, refused, excused⟩ | same
  · rw [refused] at one
    rw [one]
    exact .inl ⟨failure, rfl, excused⟩
  · rw [refused] at other
    rw [other]
    exact .inr (.inl ⟨failure, rfl, excused⟩)
  rw [same] at other
  rcases refused : refusal e s with _ | failure <;> simp only [refused] at one other
  · obtain ⟨_, t, done⟩ := one
    obtain ⟨_, t', done'⟩ := other
    obtain ⟨wrote', -, -, -, later⟩ := insertEntry_ok done'
    rw [done, done']
    exact hk t t' (carries.posts rel (insertEntry_ok done).1 wrote' later)
  · rw [one, other]
    exact .inr (.inr ⟨rfl, rel⟩)

theorem together_sourcesOf_bind (carries : c.Carries id payers) (rel : c.related s s')
    {k : List Edge → LedgerM β} (hk : c.Together (k (s.sourcesOf id)) s s') :
    c.Together (sourcesOf id >>= k) s s' := by
  unfold Comparison.Together
  rw [(confined_sourcesOf id).onStore_bind, (confined_sourcesOf id).onStore_bind, sourcesOf,
    onStore_query, onStore_query, carries.sources rel]
  exact hk

theorem together_currentBalance (rel : c.related s s') (balance : s'.balance id = s.balance id) :
    c.Together (currentBalance id) s s' := by
  unfold Comparison.Together
  rw [currentBalance, onStore_statement, onStore_statement, balance]
  rcases s.balance id with cause | total <;> exact .inr (.inr ⟨rfl, rel⟩)

theorem together_markRun (carries : c.Carries id payers) (rel : c.related s s')
    (runAt : Instant) : c.Together (markRun id runAt) s s' := by
  refine .inr (.inr ⟨?_, carries.stamps rel (wrote_markRun runAt id runAt s)
    (wrote_markRun runAt id runAt s')⟩)
  rw [answer_markRun, answer_markRun, carries.present rel]

/-! ## Paying -/

/-- A source that pays something has an edge of positive weight. -/
theorem exists_edge_of_mem_shares {deficit : Money} {edges : List Edge} {source : BudgetId}
    {cents : Int} (h : (source, cents) ∈ shares deficit edges) (pays : 0 < cents) :
    ∃ e ∈ edges, e.source = source ∧ 0 < e.weight.toInt := by
  obtain ⟨place, listed⟩ := List.mem_iff_getElem?.1 h
  obtain ⟨sources, parts⟩ := List.getElem?_zip_eq_some.1 listed
  obtain ⟨weight, weights, positive⟩ := Allocation.weight_pos_of_allocate_pos parts pays
  rw [List.getElem?_map] at sources weights
  obtain ⟨e, here, rfl⟩ := Option.map_eq_some_iff.1 sources
  rw [here] at weights
  obtain rfl : e.weight.toInt = weight := Option.some.inj weights
  exact ⟨e, List.mem_of_getElem? here, rfl, positive⟩

theorem together_debitSources (carries : c.Carries id payers) (rel : c.related s s')
    (description : String) (now : Instant) {parts : List (BudgetId × Int)}
    (asked : ∀ p ∈ parts, 0 < p.2 → payers p.1) :
    c.Together (debitSources description now parts) s s' := by
  induction parts generalizing s s' with
  | nil => exact together_pure rel _
  | cons part parts ih =>
    have rest := fun p hp => asked p (List.mem_cons_of_mem part hp)
    simp only [debitSources]
    split
    · exact ih rel rest
    rename_i pays
    split
    · rw [pure_bind]
      have here : payers part.1 := asked part List.mem_cons_self (Int.not_le.1 pays)
      exact together_insertEntry_bind carries rel here now fun _ _ rel =>
        (ih rel rest).bind (confined_debitSources _ _ _) fun _ _ _ rel => together_pure rel _
    · exact together_throw rel _

variable {b : Budget}

theorem together_coverDeficit (carries : c.Carries b.id payers) (rel : c.related s s')
    (balance : s'.balance b.id = s.balance b.id) (now : Instant) :
    c.Together (coverDeficit b now) s s' := by
  refine (together_currentBalance rel balance).bind (confined_currentBalance _)
    fun balance t t' rel => ?_
  split
  · exact together_pure rel _
  refine together_sourcesOf_bind carries rel ?_
  have asked : ∀ p ∈ shares balance.abs (t.sourcesOf b.id), 0 < p.2 → payers p.1 := by
    intro p hp pays
    obtain ⟨e, he, source, -⟩ := exists_edge_of_mem_shares hp pays
    rw [← source]
    exact carries.drawn rel e he
  refine (together_debitSources carries rel _ now asked).bind (confined_debitSources _ _ _)
    fun debits _ _ rel => ?_
  refine (together_checked rel _).bind (confined_checked _) fun total _ _ rel => ?_
  split
  · exact together_pure rel _
  · exact together_insertEntry_bind carries rel carries.self now fun _ _ rel =>
      together_pure rel _

/-- A budget of the same balance is paid alike. -/
theorem together_apply (carries : c.Carries b.id payers) (rel : c.related s s')
    (balance : s'.balance b.id = s.balance b.id) (period : Period) (force : Bool) :
    c.Together (apply b period force) s s' := by
  have transfer : c.Together (transferFor b period.now) s s' := by
    unfold transferFor
    split
    · exact together_coverDeficit carries rel balance _
    · exact together_pure rel _
  rw [apply_eq]
  split
  · refine transfer.bind (confined_transferFor _ _) fun _ _ _ rel => ?_
    refine together_insertEntry_bind carries rel carries.self period.now fun _ _ rel => ?_
    exact (together_markRun carries rel _).bind (confined_markRun _ _) fun _ _ _ rel =>
      together_pure rel _
  · exact together_pure rel _

/-- A payment does not read when the row was changed. -/
theorem apply_undated (b : Budget) (period : Period) (force : Bool) :
    apply b.undated period force = apply b period force := rfl

theorem onStore_payOne (id : BudgetId) (force : Bool) (period : Period) (s : Store) :
    (payOne id force period).onStore s =
      match (s.budget? id).map Budget.undated with
      | some b => (do
          let application ← apply b period force
          pure application.toList).onStore s
      | none => (.error (.error (.budgetNotFound id)), s) := by
  rw [payOne, (confined_lockBudget _).onStore_bind, onStore_lockBudget]
  rcases s.budget? id with _ | b
  · rfl
  · dsimp only [Option.map_some]
    rw [apply_undated]

/-- A budget of the same row and the same balance is paid alike. -/
theorem together_payOne (carries : c.Carries id payers) (rel : c.related s s')
    (row : (s'.budget? id).map Budget.undated = (s.budget? id).map Budget.undated)
    (balance : s'.balance id = s.balance id) (force : Bool) (period : Period) :
    c.Together (payOne id force period) s s' := by
  unfold Comparison.Together
  rw [onStore_payOne, onStore_payOne, row]
  rcases found : s.budget? id with _ | b
  · exact .inr (.inr ⟨rfl, rel⟩)
  · obtain rfl : b.undated.id = id := (Store.budget?_eq_some_iff.1 found).2
    exact (together_apply carries rel balance period force).bind (confined_apply _ _ _)
      fun _ _ _ rel => together_pure rel _

end

end Payroll

end Paymaster
