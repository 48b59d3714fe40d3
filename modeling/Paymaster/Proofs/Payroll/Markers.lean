import Paymaster.Proofs.Payroll.HalfWay

/-
  Run markers move forward.
  Model (read this before the theorems). A marker is written by a run of payroll, over all budgets
  or for one, forced or not; by paying one budget, whose row was just read, in the course of
  something larger; and by setting the marker directly (`MarkerWrite`). All of these may be given
  any instants, in any order, and may fail.

  A run and a payment keep the later of the old marker and their own instant, so they never lose a
  marker and never move one back. A marker that is set directly becomes what it is set to. So along
  a sequence of writes markers are kept just if no direct one is told an instant before the marker
  that it finds (`markers_kept_iff`); if it is, the marker moves back (`marker_moved_back`).
-/

namespace Paymaster

/-- The run marker of a budget. -/
def Store.marker (s : Store) (id : BudgetId) : Option Instant := (s.budget? id).bind (·.runAt)

/-- From `s` to `t` no marker was lost and none moved back. -/
def MarkersKept (s t : Store) : Prop :=
  ∀ id r, s.marker id = some r → ∃ r', t.marker id = some r' ∧ r ≤ r'

theorem stepwise_markersKept : Stepwise MarkersKept where
  refl _ _ r marked := ⟨r, marked, Int.le_refl _⟩
  trans := by
    intro s t u first second id r marked
    obtain ⟨r', marked, le⟩ := first id r marked
    obtain ⟨r'', marked, le'⟩ := second id r' marked
    exact ⟨r'', marked, Int.le_trans le le'⟩

theorem markersKept_of_budgets_eq {s t : Store} (same : t.budgets = s.budgets) :
    MarkersKept s t := by
  intro id r marked
  refine ⟨r, ?_, Int.le_refl _⟩
  rw [Store.marker, Store.budget?, same]
  exact marked

namespace Payroll

open Ledger LedgerM

/-! ## The writes -/

/-- Something that may write run markers. -/
inductive MarkerWrite
  | run (r : Run) (z : Zone) (now : Instant)
  /-- Pays one budget as its row stands. -/
  | pay (id : BudgetId) (period : Period) (force : Bool)
  /-- Sets a marker directly. -/
  | mark (id : BudgetId) (runAt : Instant)

namespace MarkerWrite

def operation : MarkerWrite → LedgerM Unit
  | run r z now => do
    let _ ← r.count z now
    pure ()
  | pay id period force => do
    let b ← lockBudget id
    let _ ← apply b period force
    pure ()
  | mark id runAt => markRun id runAt

/-- A marker that is set directly is not set to an instant before it. -/
def IsForward (db : Database) : MarkerWrite → Prop
  | mark id runAt => ∀ s r, db.store? = some s → s.marker id = some r → r ≤ runAt
  | _ => True

end MarkerWrite

/-- Each of the writes is forward, in its turn. -/
def AllForward : Database → List MarkerWrite → Prop
  | _, [] => True
  | db, w :: ws => w.IsForward db ∧ AllForward (w.operation.run db).2 ws

/-! ## What each write does to the markers -/

theorem markersKept_of_settles {period : Period} {due : List Budget} {report : List Application}
    {s t : Store} (h : Settles period due report s t) (rows : due.Sublist s.budgets) :
    MarkersKept s t := by
  intro id r marked
  by_cases paid : id ∈ report.map (·.budget)
  · obtain ⟨a, ha, rfl⟩ := List.mem_map.1 paid
    obtain ⟨b, -, paid, before, after⟩ := h.paid_row rows ha
    rw [Store.marker, before] at marked
    refine ⟨a.runAt, by rw [Store.marker, after]; rfl, ?_⟩
    rw [paid.runAt]
    exact (le_markerAfter b.runAt period.now).2 r marked
  · refine ⟨r, ?_, Int.le_refl _⟩
    rw [Store.marker, h.unpaid_row paid]
    exact marked

theorem markersKept_run (r : Run) (z : Zone) (now : Instant) (db : Database) :
    OnStores MarkersKept db ((r.count z now).run db).2 := by
  rw [Run.run_count]
  rcases Run.report_cases z now r db with
    ⟨failure, db', failed, same⟩ | ⟨s, period, report, t, rfl, -, ran, settles⟩
  · rw [failed]
    exact OnStores.of_store?_eq stepwise_markersKept same
  · rw [ran]
    exact .live (markersKept_of_settles settles (Run.due_sublist period s.store r))

/-- No row changes. -/
def SameBudgets (s t : Store) : Prop := t.budgets = s.budgets

theorem allowsEntries_sameBudgets : AllowsEntries SameBudgets where
  refl _ := rfl
  trans first second := second.trans first
  posts wrote _ _ := wrote.budgets.trans (List.map_id _)

section
variable {id : BudgetId} {now runAt : Instant} {s t : Store}

/-- Where a marker is set, the budget has it. -/
theorem marker_of_wrote (h : Wrote now [] [(id, runAt)] s t) {b : Budget}
    (row : s.budget? id = some b) : t.marker id = some runAt := by
  have here : b.id = id := (Store.budget?_eq_some_iff.1 row).2
  rw [Store.marker, h.budget?, row]
  show (if b.id = id then b.stamp runAt else b).runAt = some runAt
  rw [if_pos here]
  rfl

theorem marker_of_wrote_other (h : Wrote now [] [(id, runAt)] s t) {other : BudgetId}
    (differs : other ≠ id) : t.marker other = s.marker other := by
  rw [Store.marker, h.budget?, Store.marker]
  rcases row : s.budget? other with _ | b
  · rfl
  · have there : b.id = other := (Store.budget?_eq_some_iff.1 row).2
    rw [Option.map_some, Budget.stampAll_of_forall_ne]
    intro p stamp
    rw [List.mem_singleton.1 stamp, there]
    exact differs.symm

/-- To set a marker keeps the markers just if it is not set back. -/
theorem markersKept_mark_iff (id : BudgetId) (runAt : Instant) (s : Store) :
    MarkersKept s ((markRun id runAt).onStore s).2 ↔ ∀ r, s.marker id = some r → r ≤ runAt := by
  have wrote := wrote_markRun runAt id runAt s
  constructor
  · intro kept r marked
    obtain ⟨b, row, -⟩ := Option.bind_eq_some_iff.1 marked
    obtain ⟨r', after, le⟩ := kept id r marked
    rw [marker_of_wrote wrote row] at after
    cases after
    exact le
  · intro forward other r marked
    by_cases here : other = id
    · subst here
      obtain ⟨b, row, -⟩ := Option.bind_eq_some_iff.1 marked
      exact ⟨runAt, marker_of_wrote wrote row, forward r marked⟩
    · exact ⟨r, (marker_of_wrote_other wrote here).trans marked, Int.le_refl _⟩

end

/-- To pay a budget as its row stands keeps the markers, however far the payment gets. -/
theorem markersKept_pay {b : Budget} {s : Store} (row : s.budget? b.id = some b) (period : Period)
    (force : Bool) : MarkersKept s ((apply b period force).onStore s).2 := by
  have unchanged {t : Store} (same : SameBudgets s t) : MarkersKept s t :=
    markersKept_of_budgets_eq same
  rw [apply_eq]
  split
  case isFalse => exact unchanged rfl
  rcases (follows_transferFor allowsEntries_sameBudgets b period.now).onStore_bind_cases _ s with
    ⟨failure, t, failed, same⟩ | ⟨transfer, t, goes_on, same⟩
  · rw [failed]
    exact unchanged same
  rw [goes_on]
  rcases (follows_insertEntry allowsEntries_sameBudgets
      (.system b.id period.description .credit b.payroll) period.now).onStore_bind_cases _ t with
    ⟨failure, u, failed, same'⟩ | ⟨_, u, goes_on, same'⟩
  · rw [failed]
    exact unchanged (same'.trans same)
  rw [goes_on, (confined_markRun _ _).onStore_bind_pure]
  have before : u.marker b.id = b.runAt := by
    rw [Store.marker, Store.budget?, same'.trans same, ← Store.budget?, row]
    rfl
  refine stepwise_markersKept.trans (unchanged (same'.trans same)) ?_
  refine (markersKept_mark_iff _ _ u).2 fun r marked => ?_
  rw [before] at marked
  exact (le_markerAfter b.runAt period.now).2 r marked

theorem markersKept_write_iff (w : MarkerWrite) (db : Database) :
    OnStores MarkersKept db (w.operation.run db).2 ↔ w.IsForward db := by
  cases w with
  | run r z now =>
    have kept : Leaves MarkersKept (r.count z now) := markersKept_run r z now
    exact iff_of_true (kept.bind_pure (fun _ => ()) db) trivial
  | pay id period force =>
    refine iff_of_true ?_ trivial
    cases db with
    | live s =>
      show OnStores _ _ (LedgerM.run (lockBudget id >>= fun b => _) (.live s)).2
      rw [LedgerM.run_bind, run_lockBudget]
      rcases row : s.store.budget? id with _ | b
      · exact OnStores.refl stepwise_markersKept _
      · obtain rfl := (Store.budget?_eq_some_iff.1 row).2
        have pays : (apply b period force).Confined := confined_apply b period force
        dsimp only
        rw [(pays.bind fun _ => confined_pure ()) s]
        refine .live ?_
        show MarkersKept s.store ((apply b period force >>= fun _ => pure ()).onStore s.store).2
        rw [pays.onStore_bind_pure]
        exact markersKept_pay row period force
    | disconnected => exact .away rfl rfl
    | closed => exact .away rfl rfl
  | mark id runAt =>
    cases db with
    | live s =>
      show OnStores _ _ (LedgerM.run (markRun id runAt) (.live s)).2 ↔ _
      rw [confined_markRun id runAt s, onStores_live_iff]
      refine (markersKept_mark_iff id runAt s.store).trans
        ⟨?_, fun forward r => forward s.store r rfl⟩
      rintro forward _ r ⟨⟩
      exact forward r
    | disconnected => exact iff_of_true (.away rfl rfl) fun _ _ none => nomatch none
    | closed => exact iff_of_true (.away rfl rfl) fun _ _ none => nomatch none

theorem pairwise_markersKept_cons (m : LedgerM Unit) (ms : List (LedgerM Unit)) (db : Database) :
    (Database.through (m :: ms) db).Pairwise (OnStores MarkersKept) ↔
      OnStores MarkersKept db (m.run db).2 ∧
        (Database.through ms (m.run db).2).Pairwise (OnStores MarkersKept) :=
  Database.pairwise_through_cons fun _ _ _ => OnStores.trans stepwise_markersKept

/-- Along a sequence of writes every marker that is set stays set and none moves back, just if no
direct write is told an instant before the marker that it finds. -/
theorem markers_kept_iff (ws : List MarkerWrite) (db : Database) :
    (Database.through (ws.map (·.operation)) db).Pairwise (OnStores MarkersKept) ↔
      AllForward db ws := by
  induction ws generalizing db with
  | nil => exact ⟨fun _ => trivial, fun _ => List.pairwise_singleton _ _⟩
  | cons w ws ih =>
    rw [List.map_cons, pairwise_markersKept_cons, ih, markersKept_write_iff]
    rfl

/-- A budget that was paid in March. -/
def paidInMarch : Store where
  budgets := [⟨1, "rent", ⟨100⟩, some { seconds := 1710763200, nanos := 0 }, false, Instant.first,
    Instant.first⟩]
  lastBudget := 1
  budgets_byId := List.pairwise_singleton _ _

/-- To set its marker to an instant of February moves the marker back, and no check stops it. -/
theorem marker_moved_back :
    ¬∀ (ws : List MarkerWrite) (db : Database),
      (Database.through (ws.map (·.operation)) db).Pairwise (OnStores MarkersKept) := by
  intro kept
  let back : MarkerWrite := .mark 1 { seconds := 1707998400, nanos := 0 }
  have first := (pairwise_markersKept_cons back.operation [] (.live { store := paidInMarch })).1
    (kept [back] (.live { store := paidInMarch }))
  have later := (markersKept_write_iff back _).1 first.1 paidInMarch _ rfl rfl
  revert later
  decide

end Payroll

end Paymaster
