import Paymaster.Proofs.Payroll.Settlement
import Paymaster.Proofs.Ledger.Reading
import Paymaster.Proofs.Ledger.Rows

/-
  Runs of payroll as wholes.
  A run is the monthly one over all budgets or one for a single budget. It first finds its period
  and checks its actor (`Run.opening`), and then works within one transaction (`Run.work`;
  `Run.report_eq`). Either it fails, and the store is what it was, or it pays the budgets that were
  due when it began, each once and in the order of their ids, and writes what its report lists
  (`Run.report_cases`).
-/

namespace Paymaster.Payroll

open Ledger

theorem containing_ok {z : Zone} {now : Instant} {period : Period}
    (h : Period.containing z now = .ok period) :
    period.now = now ∧ Calendar.monthStart z now = .ok period.monthStart := by
  unfold Period.containing at h
  split at h
  · rename_i start begins
    cases h
    exact ⟨rfl, begins⟩
  · cases h

/-- A run of payroll over all budgets, or for one. -/
inductive Run
  | monthly
  | single (id : BudgetId) (actor : Option UserId) (force : Bool)

namespace Run

def report (z : Zone) (now : Instant) : Run → LedgerM (List Application)
  | monthly => monthlyReport z now
  | single id actor force => budgetReport id actor z now force

/-- The run as its callers see it, who learn how many budgets were paid. -/
def count (z : Zone) (now : Instant) : Run → LedgerM Nat
  | monthly => runMonthly z now
  | single id actor force => runBudget id actor z now force

def isForced : Run → Bool
  | monthly => false
  | single _ _ force => force

/-- The budgets that the run is to pay. -/
def due (period : Period) (s : Store) : Run → List Budget
  | monthly => (s.eligible period.monthStart).filter (isDue period false)
  | single id _ force => (s.budget? id).toList.filter (isDue period force)

/-- The run counts what it reports. -/
theorem run_count (z : Zone) (now : Instant) (r : Run) (db : Database) :
    (r.count z now).run db = match (r.report z now).run db with
      | (.ok applications, db') => (.ok applications.length, db')
      | (.error failure, db') => (.error failure, db') := by
  have length_of (m : LedgerM (List Application)) :
      (m >>= fun applications => pure applications.length).run db = match m.run db with
        | (.ok applications, db') => (.ok applications.length, db')
        | (.error failure, db') => (.error failure, db') := by
    rw [LedgerM.run_bind]
    rcases m.run db with ⟨_ | _, _⟩ <;> rfl
  cases r
  · exact length_of (monthlyReport z now)
  · exact length_of (budgetReport _ _ z now _)

/-- What a run does to a database: it fails and leaves the store as it was, or it pays what is
due. -/
def Ends (z : Zone) (now : Instant) (r : Run) (db : Database) : Prop :=
  (∃ failure db', (r.report z now).run db = (.error failure, db') ∧ db'.store? = db.store?) ∨
  ∃ s period report t, db = .live s ∧ Period.containing z now = .ok period ∧
    (r.report z now).run db = (.ok report, .live { s with store := t }) ∧
    Settles period (r.due period s.store) report s.store t

end Run

/-! ## Before and within the transaction of a run -/

theorem confined_lockBudget (id : BudgetId) : (lockBudget id).Confined := by
  refine (LedgerM.confined_query _).bind fun found => ?_
  cases found
  · exact LedgerM.confined_fail _
  · exact LedgerM.confined_pure _

theorem lockBudget_ok {id : BudgetId} {b : Budget} {s t : Store}
    (h : (lockBudget id).onStore s = (.ok b, t)) : s.budget? id = some b ∧ s = t := by
  rw [onStore_lockBudget] at h
  rcases row : s.budget? id with _ | b' <;> rw [row] at h <;> cases h
  exact ⟨rfl, rfl⟩

/-- What a run for one budget does within its transaction. -/
def payOne (id : BudgetId) (force : Bool) (period : Period) : LedgerM (List Application) := do
  let b ← lockBudget id
  let application ← apply b period force
  pure application.toList

theorem budgetReport_eq (id : BudgetId) (actor : Option UserId) (z : Zone) (now : Instant)
    (force : Bool) :
    budgetReport id actor z now force = (do
      ensureAccess id actor
      match Period.containing z now with
      | .ok period => (payOne id force period).transaction
      | .error cause => .fail (.schedule cause)) := by
  rw [budgetReport]
  rcases Period.containing z now with _ | _ <;> rfl

theorem confined_payOne (id : BudgetId) (force : Bool) (period : Period) :
    (payOne id force period).Confined :=
  (confined_lockBudget _).bind fun _ => (confined_apply _ _ _).bind fun _ =>
    LedgerM.confined_pure _

/-- The budget is paid as its row stands. -/
theorem payOne_ok {id : BudgetId} {force : Bool} {period : Period} {report : List Application}
    {s t : Store} (h : (payOne id force period).onStore s = (.ok report, t)) :
    ∃ b application, s.budget? id = some b ∧ report = application.toList ∧
      (apply b period force).onStore s = (.ok application, t) := by
  obtain ⟨b, s₁, locked, h⟩ := (confined_lockBudget _).onStore_bind_ok.1 h
  obtain ⟨row, rfl⟩ := lockBudget_ok locked
  obtain ⟨application, s₂, applied, h⟩ := (confined_apply _ _ _).onStore_bind_ok.1 h
  obtain ⟨rfl, rfl⟩ := LedgerM.onStore_pure_ok.1 h
  exact ⟨b, application, row, rfl, applied⟩

/-- What a monthly run does within its transaction. -/
def payAll (period : Period) : LedgerM (List Application) := do
  let pending ← eligibleBudgets period.monthStart
  applyAll period pending

theorem confined_payAll (period : Period) : (payAll period).Confined :=
  (LedgerM.confined_query _).bind fun _ => confined_applyAll _ _

theorem onStore_payAll (period : Period) (s : Store) :
    (payAll period).onStore s = (applyAll period (s.eligible period.monthStart)).onStore s := by
  rw [payAll, eligibleBudgets, (LedgerM.confined_query _).onStore_bind, LedgerM.onStore_query]

namespace Run

/-- What a run does within its transaction. -/
def work (period : Period) : Run → LedgerM (List Application)
  | monthly => payAll period
  | single id _ force => payOne id force period

theorem confined_work (period : Period) (r : Run) : (r.work period).Confined := by
  cases r
  · exact confined_payAll period
  · exact confined_payOne _ _ period

/-- What is done within the transaction pays what was due, and is all reported. -/
theorem settles_of_work {r : Run} {period : Period} {report : List Application} {s t : Store}
    (h : (r.work period).onStore s = (.ok report, t)) :
    Settles period (r.due period s) report s t := by
  cases r with
  | monthly =>
    replace h : (payAll period).onStore s = (.ok report, t) := h
    rw [onStore_payAll] at h
    exact applyAll_ok h
  | single id actor force =>
    obtain ⟨b, application, row, rfl, applied⟩ := payOne_ok h
    simpa [due, row] using (apply_ok applied).1

/-- What a run does before its transaction. -/
def opening (z : Zone) (now : Instant) : Run → LedgerM Period
  | monthly => LedgerM.scheduled (Period.containing z now)
  | single id actor _ => do
    ensureAccess id actor
    LedgerM.scheduled (Period.containing z now)

theorem reads_opening (z : Zone) (now : Instant) (r : Run) : (r.opening z now).Reads := by
  cases r
  · exact LedgerM.reads_scheduled _
  · exact (reads_ensureAccess _ _).bind fun _ => LedgerM.reads_scheduled _

theorem report_eq (z : Zone) (now : Instant) (r : Run) :
    r.report z now = r.opening z now >>= fun period => (r.work period).transaction := by
  cases r
  · rfl
  · exact (bind_assoc _ _ _).symm

theorem opening_ok {z : Zone} {now : Instant} {r : Run} {period : Period} {db : Database}
    (h : (r.opening z now).run db = (.ok period, db)) : Period.containing z now = .ok period := by
  cases r with
  | monthly => exact LedgerM.run_scheduled_ok h
  | single id actor force =>
    rcases (reads_ensureAccess id actor).bind_cases
      (fun _ => LedgerM.scheduled (Period.containing z now)) db with
      ⟨failure, refused⟩ | ⟨_, -, granted⟩
    · cases h.symm.trans refused
    · exact LedgerM.run_scheduled_ok (granted.symm.trans h)

theorem report_cases (z : Zone) (now : Instant) (r : Run) (db : Database) : r.Ends z now db := by
  unfold Ends
  rw [report_eq]
  rcases (r.reads_opening z now).bind_cases (fun period => (r.work period).transaction) db with
    ⟨failure, failed⟩ | ⟨period, opened, goes_on⟩
  · exact .inl ⟨failure, db, failed, rfl⟩
  rw [goes_on]
  rcases LedgerM.run_transaction_cases (r.confined_work period) db with
    failed | ⟨s, report, t, rfl, work, run⟩
  · exact .inl failed
  · exact .inr ⟨s, period, report, t, rfl, opening_ok opened, run, settles_of_work work⟩

/-- A run that succeeds paid what was due. -/
theorem report_ok {z : Zone} {now : Instant} {r : Run} {db db' : Database}
    {report : List Application} (h : (r.report z now).run db = (.ok report, db')) :
    ∃ s period t, db = .live s ∧ Period.containing z now = .ok period ∧
      db' = .live { s with store := t } ∧
      Settles period (r.due period s.store) report s.store t := by
  rcases report_cases z now r db with ⟨failure, _, failed, -⟩ |
    ⟨s, period, _, t, rfl, found, run, settles⟩
  · rw [failed] at h
    cases h
  · rw [run] at h
    cases h
    exact ⟨s, period, t, rfl, found, rfl, settles⟩

/-- The period that a run is to pay for, or why it does not come to its transaction. -/
def opens (z : Zone) (now : Instant) (s : Store) : Run → Except Failure Period
  | monthly => (Period.containing z now).mapError fun cause => .error (.schedule cause)
  | single id actor _ =>
    if s.admits id actor then
      (Period.containing z now).mapError fun cause => .error (.schedule cause)
    else .error (.error (.budgetNotFound id))

theorem run_opening (r : Run) (z : Zone) (now : Instant) (s : Session) :
    (r.opening z now).run (.live s) = (r.opens z now s.store, .live s) := by
  have scheduled : (LedgerM.scheduled (Period.containing z now)).run (.live s) =
      ((Period.containing z now).mapError fun cause => .error (.schedule cause), .live s) := by
    rcases Period.containing z now with _ | _ <;> rfl
  cases r with
  | monthly => exact scheduled
  | single id actor force =>
    rw [opening, LedgerM.run_bind, run_ensureAccess, opens]
    by_cases granted : s.store.admits id actor
    · rw [if_pos granted, if_pos granted]
      exact scheduled
    · rw [if_neg granted, if_neg granted]

theorem run_report (r : Run) (z : Zone) (now : Instant) (s : Session) :
    (r.report z now).run (.live s) = match r.opens z now s.store with
      | .ok period => (r.work period).transaction.run (.live s)
      | .error failure => (.error failure, .live s) := by
  rw [report_eq, LedgerM.run_bind, run_opening]
  rcases r.opens z now s.store with failure | period <;> rfl

/-! ## Whom a run pays -/

/-- A run pays rows of the store, in their order. -/
theorem due_sublist (period : Period) (s : Store) (r : Run) :
    (r.due period s).Sublist s.budgets := by
  cases r with
  | monthly => exact List.filter_sublist.trans List.filter_sublist
  | single id actor force =>
    refine List.filter_sublist.trans ?_
    rcases row : s.budget? id with _ | b
    · exact List.nil_sublist _
    · exact List.singleton_sublist.2 (List.mem_of_find?_eq_some row)

theorem isDue_of_mem_due {period : Period} {s : Store} {r : Run} {b : Budget}
    (h : b ∈ r.due period s) : isDue period r.isForced b := by
  cases r <;> exact (List.mem_filter.1 h).2

end Run

section
variable {period : Period} {due : List Budget} {report : List Application} {s t : Store}

/-- The report lists the budgets that were due, each once. -/
theorem Settles.budgets (h : Settles period due report s t) :
    report.map (·.budget) = due.map (·.id) := by
  have := h.paid
  clear h
  induction this with
  | nil => rfl
  | cons paid _ ih => rw [List.map_cons, List.map_cons, paid.budget, ih]

/-- Every application is for a budget that was due. -/
theorem Settles.exists_paid (h : Settles period due report s t) {a : Application}
    (ha : a ∈ report) : ∃ b ∈ due, Paid period b a := by
  have := h.paid
  clear h
  induction this with
  | nil => cases ha
  | cons paid _ ih =>
    rcases List.mem_cons.1 ha with rfl | ha
    · exact ⟨_, List.mem_cons_self, paid⟩
    · obtain ⟨b, hb, paid⟩ := ih ha
      exact ⟨b, List.mem_cons_of_mem _ hb, paid⟩

/-- Budgets that are due in the order of their ids are reported so. -/
theorem Settles.ascending (h : Settles period due report s t)
    (rows : due.Sublist s.budgets) : (report.map (·.budget)).Pairwise (· < ·) := by
  rw [h.budgets]
  exact List.pairwise_map.2 (s.budgets_byId.sublist rows)

theorem nodup_of_ascending {ids : List BudgetId} (h : ids.Pairwise (· < ·)) : ids.Nodup := by
  refine h.imp fun before same => ?_
  rw [same, Int64.lt_iff_toInt_lt] at before
  omega

/-- The row of a budget that was paid gets its new marker. -/
theorem Settles.paid_row (h : Settles period due report s t) (rows : due.Sublist s.budgets)
    {a : Application} (ha : a ∈ report) :
    ∃ b ∈ due, Paid period b a ∧ s.budget? a.budget = some b ∧
      t.budget? a.budget = some (b.stamp a.runAt) := by
  obtain ⟨b, hb, paid⟩ := h.exists_paid ha
  have row : s.budget? a.budget = some b :=
    Store.budget?_eq_some_iff.2 ⟨rows.subset hb, paid.budget.symm⟩
  have stamp : a.stamp ∈ report.map Application.stamp := List.mem_map.2 ⟨a, ha, rfl⟩
  have distinct : ((report.map Application.stamp).map (·.1)).Nodup := by
    rw [List.map_map]
    exact nodup_of_ascending (h.ascending rows)
  refine ⟨b, hb, paid, row, ?_⟩
  rw [h.wrote.budget?, row, Option.map_some, Budget.stampAll_of_mem distinct stamp paid.budget]
  rfl

/-- The row of any other budget stays. -/
theorem Settles.unpaid_row (h : Settles period due report s t) {id : BudgetId}
    (other : id ∉ report.map (·.budget)) : t.budget? id = s.budget? id := by
  rw [h.wrote.budget?]
  rcases row : s.budget? id with _ | b
  · rfl
  · rw [Option.map_some, Budget.stampAll_of_forall_ne]
    rintro _ stamp same
    obtain ⟨a, ha, rfl⟩ := List.mem_map.1 stamp
    refine other (List.mem_map.2 ⟨a, ha, ?_⟩)
    rw [← (Store.budget?_eq_some_iff.1 row).2]
    exact same

end

/-! ## The transfers of a run -/

/-- A transfer of a report clears the deficit of its budget as it was found when the turn of the
budget came; the edges were then those from the start. -/
def Clears (s : Store) (a : Application) : Prop :=
  ∀ x, a.transfer = some x → ∃ u b, u.edges = s.edges ∧ a.budget = b.id ∧ Covers u b x

variable {period : Period} {s t : Store}

theorem apply_clears {b : Budget} {force : Bool} {application : Option Application}
    (h : (apply b period force).onStore s = (.ok application, t)) :
    ∀ a ∈ application.toList, Clears s a := by
  obtain ⟨settles, covers⟩ := apply_ok h
  intro a ha x hx
  obtain ⟨c, hc, paid⟩ := settles.exists_paid ha
  rw [List.mem_singleton.1 (List.mem_filter.1 hc).1] at paid
  exact ⟨s, b, rfl, paid.budget, covers a x (Option.mem_toList.1 ha) hx⟩

theorem applyAll_clears {bs : List Budget} {report : List Application}
    (h : (applyAll period bs).onStore s = (.ok report, t)) : ∀ a ∈ report, Clears s a := by
  induction bs generalizing report s with
  | nil =>
    obtain ⟨rfl, rfl⟩ := LedgerM.onStore_pure_ok.1 h
    exact fun _ none => nomatch none
  | cons b bs ih =>
    obtain ⟨application, s₁, others, applied, applied_rest, rfl⟩ := applyAll_cons_ok.1 h
    intro a ha
    rcases List.mem_append.1 ha with here | later
    · exact apply_clears applied a here
    · have edges := (apply_ok applied).1.wrote.edges
      intro x hx
      obtain ⟨u, c, same, paid, covers⟩ := ih applied_rest a later x hx
      exact ⟨u, c, same.trans edges, paid, covers⟩

theorem Run.clears_of_work {r : Run} {report : List Application}
    (h : (r.work period).onStore s = (.ok report, t)) : ∀ a ∈ report, Clears s a := by
  cases r with
  | monthly =>
    replace h : (payAll period).onStore s = (.ok report, t) := h
    rw [onStore_payAll] at h
    exact applyAll_clears h
  | single id actor force =>
    obtain ⟨b, application, -, rfl, applied⟩ := payOne_ok h
    exact apply_clears applied

end Paymaster.Payroll
