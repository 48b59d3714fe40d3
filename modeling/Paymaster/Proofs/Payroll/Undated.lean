import Paymaster.Proofs.Payroll.SideBySide

/-
  Runs do not read when a row was changed.
  A row says when it was last changed, and no run of payroll looks at that. So on two stores that
  are the same but for these times (`SameButDates`) every run answers the same, and the stores that
  it leaves are again the same but for these times (`sameButDates_report`). From then on all runs
  report the same (`reports_congr`), and what their transfers ask of whom is settled by the edges
  (`clears_of_mem_reports`).
-/

namespace Paymaster

/-- The same but for the times at which rows were changed. -/
structure SameButDates (s s' : Store) : Prop where
  budgets : s'.budgets.map Budget.undated = s.budgets.map Budget.undated
  entries : s'.entries = s.entries
  edges : s'.edges = s.edges
  members : s'.members = s.members
  rejecting : s'.rejecting = s.rejecting
  lastEntry : s'.lastEntry = s.lastEntry

/-- A stamp sets the time of change itself. -/
theorem Budget.undated_stampAll (stamps : List (BudgetId × Instant)) (b : Budget) :
    (b.undated.stampAll stamps).undated = (b.stampAll stamps).undated := by
  induction stamps generalizing b with
  | nil => rfl
  | cons x stamps ih =>
    show ((if b.id = x.1 then b.undated.stamp x.2 else b.undated).stampAll stamps).undated =
      ((if b.id = x.1 then b.stamp x.2 else b).stampAll stamps).undated
    split
    · rfl
    · exact ih b

namespace SameButDates

variable {s s' : Store}

theorem budget? (h : SameButDates s s') (id : BudgetId) :
    (s'.budget? id).map Budget.undated = (s.budget? id).map Budget.undated := by
  have found (bs : List Budget) : (bs.find? (·.id = id)).map Budget.undated =
      (bs.map Budget.undated).find? (·.id = id) := by
    rw [List.find?_map]
    rfl
  rw [Store.budget?, Store.budget?, found, found, h.budgets]

theorem eligible (h : SameButDates s s') (monthStart : Instant) :
    (s'.eligible monthStart).map Budget.undated = (s.eligible monthStart).map Budget.undated := by
  have kept (bs : List Budget) : (bs.filter (Store.isEligible monthStart)).map Budget.undated =
      (bs.map Budget.undated).filter (Store.isEligible monthStart) := by
    rw [List.filter_map]
    rfl
  rw [Store.eligible, Store.eligible, kept, kept, h.budgets]

theorem balance (h : SameButDates s s') (id : BudgetId) : s'.balance id = s.balance id := by
  rw [Store.balance, Store.entriesOf, h.entries, Store.balance, Store.entriesOf]

theorem hasBudget (h : SameButDates s s') (id : BudgetId) :
    s'.hasBudget id = s.hasBudget id := by
  have rows := congrArg Option.isSome (h.budget? id)
  rwa [Option.isSome_map, Option.isSome_map] at rows

/-- The stores stay so when the same is written to each. -/
theorem wrote (h : SameButDates s s') {now : Instant} {news : List Ledger.NewEntry}
    {stamps : List (BudgetId × Instant)} {t t' : Store} (one : Ledger.Wrote now news stamps s t)
    (other : Ledger.Wrote now news stamps s' t') : SameButDates t t' where
  budgets := by
    have stamped (bs : List Budget) : (bs.map (Budget.stampAll stamps)).map Budget.undated =
        (bs.map Budget.undated).map fun b => (b.stampAll stamps).undated := by
      rw [List.map_map, List.map_map]
      exact List.map_congr_left fun b _ => (b.undated_stampAll stamps).symm
    rw [one.budgets, other.budgets, stamped, stamped, h.budgets]
  entries := by rw [one.entries, other.entries, h.entries, h.lastEntry]
  edges := by rw [one.edges, other.edges, h.edges]
  members := by rw [one.members, other.members, h.members]
  rejecting := by rw [one.rejecting, other.rejecting, h.rejecting]
  lastEntry := by rw [one.lastEntry, other.lastEntry, h.lastEntry]

end SameButDates

namespace Payroll

open Ledger LedgerM

variable {s s' : Store}

/-! ## Paying -/

/-- Stores that are the same but for the times of change; neither is excused. -/
def datesApart : Comparison where
  related := SameButDates
  excuse _ := False
  excuse' _ := False

theorem together_datesApart_iff {α : Type} {m : LedgerM α} : datesApart.Together m s s' ↔
    (m.onStore s').1 = (m.onStore s).1 ∧ SameButDates (m.onStore s).2 (m.onStore s').2 := by
  simp [Comparison.Together, datesApart]

theorem carries_datesApart (id : BudgetId) : datesApart.Carries id fun _ => True where
  self := trivial
  present same := same.hasBudget id
  sources same := by rw [Store.sourcesOf, same.edges, Store.sourcesOf]
  drawn _ _ _ := trivial
  refuses same e _ := by
    refine .inr (.inr ?_)
    rw [refusal, same.rejecting, same.lastEntry, same.hasBudget, refusal]
  posts same one other _ := same.wrote one other
  stamps same one other := same.wrote one other

theorem together_applyAll (same : SameButDates s s') (period : Period) (bs : List Budget) :
    datesApart.Together (applyAll period bs) s s' := by
  induction bs generalizing s s' with
  | nil => exact together_pure same _
  | cons b bs ih =>
    exact (together_apply (carries_datesApart b.id) same (same.balance b.id) period false).bind
      (confined_apply _ _ _) fun _ _ _ same =>
        Comparison.Together.bind (ih same) (confined_applyAll _ _) fun _ _ _ same =>
          together_pure same _

theorem applyAll_undated (period : Period) (bs : List Budget) :
    applyAll period (bs.map Budget.undated) = applyAll period bs := by
  induction bs with
  | nil => rfl
  | cons b bs ih => rw [List.map_cons, applyAll, apply_undated, ih, applyAll]

theorem together_payAll (same : SameButDates s s') (period : Period) :
    datesApart.Together (payAll period) s s' := by
  have paid := together_applyAll same period (s.eligible period.monthStart)
  unfold Comparison.Together at *
  rwa [onStore_payAll, onStore_payAll, ← applyAll_undated _ (s'.eligible _), same.eligible,
    applyAll_undated]

/-! ## Runs -/

/-- A run gives the same in both sessions, and leaves stores that are the same but for the times
of change. -/
theorem sameButDates_report {s s' : Session} (same : SameButDates s.store s'.store) (r : Run)
    (z : Zone) (now : Instant) :
    ∃ result t t', (r.report z now).run (.live s) = (result, .live t) ∧
      (r.report z now).run (.live s') = (result, .live t') ∧ SameButDates t.store t'.store := by
  have opens : r.opens z now s'.store = r.opens z now s.store := by
    cases r
    · rfl
    · rw [Run.opens, Store.admits_congr same.members, Run.opens]
  rw [r.run_report, r.run_report, opens]
  rcases r.opens z now s.store with failure | period
  · exact ⟨_, _, _, rfl, rfl, same⟩
  have together : datesApart.Together (r.work period) s.store s'.store := by
    cases r with
    | monthly => exact together_payAll same period
    | single id actor force =>
      exact together_payOne (carries_datesApart id) same (same.budget? id) (same.balance id) force
        period
  obtain ⟨answers, left⟩ := together_datesApart_iff.1 together
  dsimp only
  rw [(r.confined_work period).run_transaction, (r.confined_work period).run_transaction]
  rcases one : (r.work period).onStore s.store with ⟨result, t⟩
  rcases other : (r.work period).onStore s'.store with ⟨result', t'⟩
  rw [one, other] at answers left
  obtain rfl : result' = result := answers
  rcases result' with failure | report
  · exact ⟨_, _, _, rfl, rfl, same⟩
  · exact ⟨_, _, _, rfl, rfl, left⟩

/-- What one run after the other reports. -/
def reports : List (Run × Zone × Instant) → Database → List (Except Failure (List Application))
  | [], _ => []
  | (r, z, now) :: runs, db =>
    let (result, db) := (r.report z now).run db
    result :: reports runs db

theorem reports_congr {s s' : Session} (same : SameButDates s.store s'.store)
    (runs : List (Run × Zone × Instant)) : reports runs (.live s') = reports runs (.live s) := by
  induction runs generalizing s s' with
  | nil => rfl
  | cons x runs ih =>
    obtain ⟨r, z, now⟩ := x
    obtain ⟨result, t, t', one, other, same⟩ := sameButDates_report same r z now
    rw [reports, reports, one, other]
    dsimp only
    rw [ih same]

/-- No run changes the edges, so the transfers of all later runs are those that the edges of the
start ask for. -/
theorem clears_of_mem_reports {s : Session} {runs : List (Run × Zone × Instant)}
    {report : List Application} (h : .ok report ∈ reports runs (.live s)) :
    ∀ a ∈ report, Clears s.store a := by
  induction runs generalizing s with
  | nil => cases h
  | cons x runs ih =>
    obtain ⟨r, z, now⟩ := x
    have later {t : Session} (same : t.store.edges = s.store.edges)
        (h : .ok report ∈ reports runs (.live t)) : ∀ a ∈ report, Clears s.store a := by
      intro a ha x hx
      obtain ⟨u, b, edges, paid, covers⟩ := ih h a ha x hx
      exact ⟨u, b, edges.trans same, paid, covers⟩
    have run := r.run_report z now s
    rcases opened : r.opens z now s.store with failure | period <;> rw [opened] at run
    · rw [reports, run] at h
      rcases List.mem_cons.1 h with none | h
      · cases none
      · exact later rfl h
    · dsimp only at run
      rw [(r.confined_work period).run_transaction] at run
      rcases done : (r.work period).onStore s.store with ⟨failure | paid, t⟩ <;>
        rw [done] at run <;> rw [reports, run] at h
      · rcases List.mem_cons.1 h with none | h
        · cases none
        · exact later (t := s.afterUndoing) rfl h
      · rcases List.mem_cons.1 h with same | h
        · cases same
          exact Run.clears_of_work done
        · exact later (Run.settles_of_work done).wrote.edges h

end Payroll

end Paymaster
