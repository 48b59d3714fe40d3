import Paymaster.Proofs.Payroll.Monthly

/-
  The monthly run, budget by budget.
  The monthly run reads all rows at its start and pays within one transaction. Runs for the single
  budgets, one after the other, read each row when its turn comes and commit in between. Both come
  to the same (`runMonthly_eq_runEach`): paying a budget changes no row but its own
  (`row_of_apply_ok`), and a budget that is not due is passed over (`applyAll_filter`). They differ
  only in what is left when a budget cannot be paid. Then the monthly run undoes all, and the
  single runs have paid the budgets before it.
-/

namespace Paymaster.Payroll

open Ledger

/-- A run for each of the budgets, in a transaction of its own, and the sum of what they count. The
first run that fails is the last. -/
def runEach (z : Zone) (now : Instant) : List BudgetId → LedgerM Nat
  | [] => pure 0
  | id :: ids => do
    let count ← runBudget id none z now false
    let counts ← runEach z now ids
    pure (count + counts)

/-- The monthly run on the store `s` has paid the budgets before `b` and so come to the store `u`,
and there it fails on `b`. -/
structure FailsOn (period : Period) (s : Store) (b : Budget) (failure : Failure) (u : Store) :
    Prop where
  paid : ∃ earlier later report, s.eligible period.monthStart = earlier ++ b :: later ∧
    (applyAll period earlier).onStore s = (.ok report, u)
  fails : ((apply b period false).onStore u).1 = .error failure

/-! ## Budgets that are not due -/

theorem isDue_eq_owed (period : Period) (b : Budget) :
    isDue period false b = owed period.monthStart b := by
  rw [isDue, not_alreadyPaid_eq, Bool.false_or]
  rfl

theorem apply_of_not_due {period : Period} {force : Bool} {b : Budget}
    (h : isDue period force b = false) : apply b period force = pure none := by
  rw [apply_eq, h]
  rfl

/-- A run over a list passes over budgets that are not due, so they may as well be left out. -/
theorem applyAll_filter {period : Period} {bs : List Budget} {keep : Budget → Bool}
    (h : ∀ b ∈ bs, keep b = false → isDue period false b = false) :
    applyAll period (bs.filter keep) = applyAll period bs := by
  induction bs with
  | nil => rfl
  | cons b bs ih =>
    have rest := ih fun c hc => h c (List.mem_cons_of_mem b hc)
    rcases kept : keep b with _ | _
    · have skipped := apply_of_not_due (h b List.mem_cons_self kept)
      rw [List.filter_cons_of_neg (by simp [kept]), rest, applyAll, skipped, pure_bind]
      exact (bind_pure _).symm
    · rw [List.filter_cons_of_pos kept, applyAll, applyAll, rest]

section
variable {z : Zone} {now : Instant} {period : Period}

/-- The monthly run selects by text what is due; where the texts tell, it misses nobody. -/
theorem not_due_of_not_eligible {s : Store} (tells : TextsTell period.monthStart s) {b : Budget}
    (row : b ∈ s.budgets) (h : Store.isEligible period.monthStart b = false) :
    isDue period false b = false := by
  rw [isDue_eq_owed, ← isEligible_eq_owed tells row]
  exact h

/-! ## One budget -/

/-- A run for one budget, as its row stands. -/
theorem run_runBudget (found : Period.containing z now = .ok period) {b : Budget} {s : Session}
    (row : s.store.budget? b.id = some b) :
    (runBudget b.id none z now false).run (.live s) =
      match (apply b period false).onStore s.store with
      | (.ok application, t) => (.ok application.toList.length, .live { s with store := t })
      | (.error failure, _) => (.error failure, .live s.afterUndoing) := by
  have report : budgetReport b.id none z now false = (payOne b.id false period).transaction := by
    rw [budgetReport_eq, found]
    rfl
  rw [runBudget, report, LedgerM.run_bind, (confined_payOne _ _ _).run_transaction, payOne,
    (confined_lockBudget b.id).onStore_bind, onStore_lockBudget, row]
  dsimp only
  rw [(confined_apply _ _ _).onStore_bind]
  rcases (apply b period false).onStore s.store with ⟨_ | _, _⟩ <;> rfl

/-- Paying a budget changes no other row. -/
theorem row_of_apply_ok {b c : Budget} {force : Bool} {application : Option Application}
    {s t : Store} (h : (apply b period force).onStore s = (.ok application, t))
    (other : c.id ≠ b.id) : t.budget? c.id = s.budget? c.id := by
  have settles := (apply_ok h).1
  refine settles.unpaid_row ?_
  rw [settles.budgets]
  intro listed
  obtain ⟨d, hd, same⟩ := List.mem_map.1 listed
  rw [List.mem_singleton.1 (List.mem_filter.1 hd).1] at same
  exact other same.symm

theorem row_of_applyAll_ok {bs : List Budget} {c : Budget} {report : List Application}
    {s t : Store} (h : (applyAll period bs).onStore s = (.ok report, t))
    (other : ∀ b ∈ bs, b.id ≠ c.id) : t.budget? c.id = s.budget? c.id := by
  have settles := applyAll_ok h
  refine settles.unpaid_row ?_
  rw [settles.budgets]
  intro listed
  obtain ⟨d, hd, same⟩ := List.mem_map.1 listed
  exact other d (List.mem_filter.1 hd).1 same

/-! ## All budgets -/

/-- What a run over a list pays, single runs pay, one after the other. -/
theorem run_runEach_of_applyAll_ok (found : Period.containing z now = .ok period)
    {bs : List Budget} {s : Session} (rows : ∀ b ∈ bs, s.store.budget? b.id = some b)
    (distinct : bs.Pairwise fun a b => a.id ≠ b.id) {report : List Application} {t : Store}
    (h : (applyAll period bs).onStore s.store = (.ok report, t)) :
    (runEach z now (bs.map (·.id))).run (.live s) =
      (.ok report.length, .live { s with store := t }) := by
  induction bs generalizing s report with
  | nil =>
    obtain ⟨rfl, rfl⟩ := LedgerM.onStore_pure_ok.1 h
    rfl
  | cons b bs ih =>
    obtain ⟨unlike, distinct⟩ := List.pairwise_cons.1 distinct
    obtain ⟨application, u, others, applied, applied_rest, rfl⟩ := applyAll_cons_ok.1 h
    have untouched : ∀ c ∈ bs, u.budget? c.id = some c := fun c hc => by
      rw [row_of_apply_ok applied (unlike c hc).symm]
      exact rows c (List.mem_cons_of_mem b hc)
    have rest := ih (s := { s with store := u }) untouched distinct applied_rest
    rw [List.map_cons, runEach, LedgerM.run_bind, run_runBudget found (rows b List.mem_cons_self),
      applied]
    dsimp only
    rw [LedgerM.run_bind, rest, List.length_append]
    rfl

/-- A run over a list that fails does so on one of its budgets, after it paid those before. -/
theorem applyAll_error {bs : List Budget} {failure : Failure} {s t : Store}
    (h : (applyAll period bs).onStore s = (.error failure, t)) :
    ∃ before b later report u, bs = before ++ b :: later ∧
      (applyAll period before).onStore s = (.ok report, u) ∧
        (apply b period false).onStore u = (.error failure, t) := by
  induction bs generalizing s with
  | nil => cases h
  | cons b bs ih =>
    rw [applyAll, (confined_apply _ _ _).onStore_bind] at h
    rcases applied : (apply b period false).onStore s with ⟨cause | application, u⟩ <;>
      rw [applied] at h
    · cases h
      exact ⟨[], b, bs, [], s, rfl, rfl, applied⟩
    · dsimp only at h
      rw [(confined_applyAll _ _).onStore_bind] at h
      rcases rest : (applyAll period bs).onStore u with ⟨cause | others, v⟩ <;> rw [rest] at h
      · cases h
        obtain ⟨before, c, later, report, w, rfl, paid, fails⟩ := ih rest
        refine ⟨b :: before, c, later, application.toList ++ report, w, rfl, ?_, fails⟩
        exact applyAll_cons_ok.2 ⟨application, u, report, applied, paid, rfl⟩
      · cases h

theorem runEach_append (ids others : List BudgetId) :
    runEach z now (ids ++ others) = (do
      let count ← runEach z now ids
      let counts ← runEach z now others
      pure (count + counts)) := by
  induction ids with
  | nil => simp only [List.nil_append, runEach, pure_bind, Nat.zero_add, bind_pure]
  | cons id ids ih =>
    simp only [List.cons_append, runEach, ih, bind_assoc, pure_bind, Nat.add_assoc]

/-- If a run over a list fails on a budget, single runs pay those before it and fail on it, too. -/
theorem run_runEach_of_apply_error (found : Period.containing z now = .ok period)
    {before later : List Budget} {b : Budget} {s : Session}
    (rows : ∀ c ∈ before ++ b :: later, s.store.budget? c.id = some c)
    (distinct : (before ++ b :: later).Pairwise fun c d => c.id ≠ d.id)
    {report : List Application} {failure : Failure} {t u : Store}
    (paid : (applyAll period before).onStore s.store = (.ok report, u))
    (fails : (apply b period false).onStore u = (.error failure, t)) :
    let db : Database := .live { s with store := u }
    let db' : Database := .live { s with store := u }.afterUndoing
    (runEach z now (before.map (·.id))).run (.live s) = (.ok report.length, db) ∧
      (runBudget b.id none z now false).run db = (.error failure, db') ∧
        (runEach z now ((before ++ b :: later).map (·.id))).run (.live s) =
          (.error failure, db') := by
  intro db db'
  obtain ⟨distinct, -, unlike⟩ := List.pairwise_append.1 distinct
  have each := run_runEach_of_applyAll_ok found
    (fun c hc => rows c (List.mem_append_left _ hc)) distinct paid
  have row : u.budget? b.id = some b := by
    rw [row_of_applyAll_ok paid fun c hc => unlike c hc b List.mem_cons_self]
    exact rows b (List.mem_append_right _ List.mem_cons_self)
  have single : (runBudget b.id none z now false).run db = (.error failure, db') := by
    rw [run_runBudget found (s := { s with store := u }) row, fails]
  refine ⟨each, single, ?_⟩
  rw [List.map_append, List.map_cons, runEach_append, LedgerM.run_bind, each]
  dsimp only
  rw [LedgerM.run_bind, runEach, LedgerM.run_bind, single]

/-! ## The monthly run -/

/-- The monthly run selects a budget on which a run over all budgets fails, and those before it that
such a run pays. -/
theorem failsOn_of_apply_error {s : Store} (tells : TextsTell period.monthStart s)
    {before later : List Budget} {b : Budget} (split : s.budgets = before ++ b :: later)
    {report : List Application} {failure : Failure} {t u : Store}
    (paid : (applyAll period before).onStore s = (.ok report, u))
    (fails : (apply b period false).onStore u = (.error failure, t)) :
    FailsOn period s b failure u := by
  have row : b ∈ s.budgets := split ▸ List.mem_append_right _ List.mem_cons_self
  have due : Store.isEligible period.monthStart b = true := by
    by_contra passed_over
    have not_due := not_due_of_not_eligible tells row (by simpa using passed_over)
    rw [apply_of_not_due not_due] at fails
    cases fails
  refine ⟨⟨before.filter (Store.isEligible period.monthStart),
    later.filter (Store.isEligible period.monthStart), report, ?_, ?_⟩, by rw [fails]⟩
  · rw [Store.eligible, split, List.filter_append, List.filter_cons_of_pos due]
  · rw [applyAll_filter fun c hc =>
      not_due_of_not_eligible tells (split ▸ List.mem_append_left _ hc)]
    exact paid

/-- The monthly run on a store whose markers can be compared as texts. -/
theorem run_runMonthly (found : Period.containing z now = .ok period) {s : Session}
    (tells : TextsTell period.monthStart s.store) :
    (runMonthly z now).run (.live s) =
      match (applyAll period s.store.budgets).onStore s.store with
      | (.ok report, t) => (.ok report.length, .live { s with store := t })
      | (.error failure, _) => (.error failure, .live s.afterUndoing) := by
  have report : monthlyReport z now = (payAll period).transaction := by
    rw [monthlyReport, found]
    rfl
  have all : applyAll period (s.store.eligible period.monthStart) =
      applyAll period s.store.budgets :=
    applyAll_filter fun b hb => not_due_of_not_eligible tells hb
  rw [runMonthly, report, LedgerM.run_bind, (confined_payAll period).run_transaction,
    onStore_payAll, all]
  rcases (applyAll period s.store.budgets).onStore s.store with ⟨_ | _, _⟩ <;> rfl

/-- In years of four digits, where no marker is a leap second within a minute whose text is already
that of the month: the monthly run succeeds just if the runs for all budgets in the order of their
ids do, and then it counts as many payments and leaves the same database. If it fails, they fail
with the same error, and at the same budget: the single runs before it succeed, and come to the
store on which the monthly run fails. -/
theorem runMonthly_eq_runEach (found : Period.containing z now = .ok period) {s : Session}
    (hstart : period.monthStart.HasPlainYear)
    (markers : ∀ b ∈ s.store.budgets, ∀ runAt, b.runAt = some runAt → runAt.HasPlainYear)
    (clear : MarkersClear period.monthStart s.store) :
    (∀ n db', (runMonthly z now).run (.live s) = (.ok n, db') ↔
      (runEach z now (s.store.budgets.map (·.id))).run (.live s) = (.ok n, db')) ∧
    ∀ failure db', (runMonthly z now).run (.live s) = (.error failure, db') →
      ∃ before b later u n db'', s.store.budgets = before ++ b :: later ∧
        FailsOn period s.store b failure u ∧
        (runEach z now (before.map (·.id))).run (.live s) = (.ok n, .live { s with store := u }) ∧
        (runBudget b.id none z now false).run (.live { s with store := u }) =
          (.error failure, db'') ∧
        (runEach z now (s.store.budgets.map (·.id))).run (.live s) = (.error failure, db'') := by
  have rows : ∀ b ∈ s.store.budgets, s.store.budget? b.id = some b := fun b hb =>
    Store.budget?_eq_some_iff.2 ⟨hb, rfl⟩
  have distinct := s.store.ids_unequal
  have whole := Calendar.monthStart_whole (containing_ok found).2
  have tells := textsTell_of_plain whole hstart markers clear
  have monthly := run_runMonthly found tells
  rcases paid : (applyAll period s.store.budgets).onStore s.store with ⟨cause | report, t⟩ <;>
    rw [paid] at monthly
  · obtain ⟨before, b, later, report, u, split, paid_before, fails⟩ := applyAll_error paid
    rw [split] at rows distinct
    obtain ⟨each, single, all⟩ := run_runEach_of_apply_error found rows distinct paid_before fails
    rw [← split] at all
    constructor
    · intro n db'
      rw [monthly, all]
      exact ⟨nofun, nofun⟩
    · rw [monthly]
      rintro _ _ ⟨⟩
      exact ⟨before, b, later, u, _, _, split,
        failsOn_of_apply_error tells split paid_before fails, each, single, all⟩
  · have each := run_runEach_of_applyAll_ok found rows distinct paid
    rw [monthly, each]
    exact ⟨fun n db' => Iff.rfl, fun failure db' => nofun⟩

end

/-- In March the household is paid alike by the monthly run and by runs for its three budgets. -/
theorem runMonthly_eq_runEach_household :
    let march : Instant := { seconds := 1710504000, nanos := 0 }
    ∃ db', (runMonthly .utc march).run (.live { store := household }) = (.ok 1, db') ∧
      (runEach .utc march [1, 2, 3]).run (.live { store := household }) = (.ok 1, db') := by
  intro march
  have counts : ((runMonthly .utc march).run (.live { store := household })).1 = .ok 1 := by
    decide +kernel
  rcases ran : (runMonthly .utc march).run (.live { store := household }) with ⟨result, db'⟩
  rw [ran] at counts
  cases counts
  have found : Period.containing .utc march =
      .ok ⟨march, { seconds := 1709251200, nanos := 0 }, "March 2024"⟩ := by decide +kernel
  have same := runMonthly_eq_runEach found (s := { store := household }) (by decide +kernel)
    (forall_marker (by decide +kernel)) (markersClear_of_minute (by decide))
  exact ⟨db', rfl, (same.1 1 db').1 ran⟩

end Paymaster.Payroll
