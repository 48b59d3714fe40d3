import Paymaster.AutoBalance
import Paymaster.Proofs.Ledger.Reading

/-
  What replacing an auto-balance configuration does.
  All checks read the store and no more; the writes are one transaction. So a replacement either
  fails and leaves the store as it was, or it sets the flag of its budget and puts the new edges in
  the place of the old ones, and touches nothing else (`replace_cases`).
-/

namespace Paymaster.AutoBalance

open Ledger

/-- The row once the flag is set. -/
def Configured (budget : BudgetId) (enabled : Bool) (now : Instant) (b : Budget) : Budget :=
  if b.id = budget then { b with autoBalance := enabled, updatedAt := now } else b

/-- From `s` to `t` the configuration of a budget was replaced, and nothing else changed. -/
structure Replaces (budget : BudgetId) (enabled : Bool) (sources : List SourceWeight)
    (now : Instant) (s t : Store) : Prop where
  budgets : t.budgets = s.budgets.map (Configured budget enabled now)
  edges : ∀ e, e ∈ t.edges ↔ e ∈ edges budget sources ∨ e ∈ s.edges ∧ e.target ≠ budget
  entries : t.entries = s.entries
  lastEntry : t.lastEntry = s.lastEntry
  members : t.members = s.members
  rejecting : t.rejecting = s.rejecting
  lastBudget : t.lastBudget = s.lastBudget

/-- The row of a budget afterwards. -/
theorem Replaces.budget? {budget : BudgetId} {enabled : Bool} {sources : List SourceWeight}
    {now : Instant} {s t : Store} (h : Replaces budget enabled sources now s t) (id : BudgetId) :
    t.budget? id = (s.budget? id).map (Configured budget enabled now) := by
  have ids (b : Budget) : (Configured budget enabled now b).id = b.id := by
    unfold Configured
    split <;> rfl
  simp only [Store.budget?, h.budgets, List.find?_map, Function.comp_def, ids]

theorem Replaces.hasBudget {budget : BudgetId} {enabled : Bool} {sources : List SourceWeight}
    {now : Instant} {s t : Store} (h : Replaces budget enabled sources now s t) (id : BudgetId) :
    t.hasBudget id = s.hasBudget id := by
  rw [Store.hasBudget, h.budget?, Option.isSome_map, Store.hasBudget]

/-! ## Edges -/

/-- All of the store but its edges. -/
def withoutEdges (s : Store) : Store := { s with edges := [], edges_byKey := noEdges_byKey }

theorem of_withoutEdges_eq {s t : Store} (h : withoutEdges t = withoutEdges s) :
    t.budgets = s.budgets ∧ t.entries = s.entries ∧ t.members = s.members ∧
      t.rejecting = s.rejecting ∧ t.lastBudget = s.lastBudget ∧ t.lastEntry = s.lastEntry := by
  simpa [withoutEdges] using h

/-- From `s` to `t` these edges were added. -/
structure Adds (es : List Edge) (s t : Store) : Prop where
  edges : ∀ e, e ∈ t.edges ↔ e ∈ es ∨ e ∈ s.edges
  rest : withoutEdges t = withoutEdges s

theorem insertEdge_ok {e : Edge} {s t : Store} (h : Store.insertEdge e s = .ok ((), t)) :
    Adds [e] s t := by
  unfold Store.insertEdge at h
  split at h
  · cases h
  split at h
  · cases h
    exact ⟨fun x => by simp [mem_insertBy], rfl⟩
  · cases h

theorem insertEdges_ok {es : List Edge} {s t : Store} (h : Store.insertEdges es s = .ok ((), t)) :
    Adds es s t := by
  induction es generalizing s with
  | nil =>
    cases h
    exact ⟨fun x => by simp, rfl⟩
  | cons e es ih =>
    unfold Store.insertEdges at h
    split at h
    · rename_i u first
      have one := insertEdge_ok first
      have others := ih h
      refine ⟨fun x => ?_, others.rest.trans one.rest⟩
      rw [others.edges, one.edges, List.mem_singleton, List.mem_cons, ← or_assoc,
        or_comm (a := x ∈ es)]
    · cases h

/-! ## Checks -/

theorem reads_ensureSources (actor : Option UserId) (sources : List SourceWeight) :
    (ensureSources actor sources).Reads := by
  induction sources with
  | nil => exact LedgerM.reads_pure _
  | cons s rest ih =>
    exact (reads_ensureAccess _ _).bind fun _ => (reads_lockBudget _).bind fun _ => ih

/-! ## The replacement -/

/-- The writes of a replacement. -/
def write (budget : BudgetId) (enabled : Bool) (sources : List SourceWeight) (now : Instant) :
    LedgerM Unit := do
  let rows ← LedgerM.statement
    (Store.updateBudget budget fun b => { b with autoBalance := enabled, updatedAt := now })
  if rows = 0 then .fail (.budgetNotFound budget)
  else
    let _ ← LedgerM.statement (Store.deleteSourcesOf budget)
    LedgerM.statement (Store.insertEdges (edges budget sources))

theorem confined_write (budget : BudgetId) (enabled : Bool) (sources : List SourceWeight)
    (now : Instant) : (write budget enabled sources now).Confined := by
  refine (LedgerM.confined_statement _).bind fun rows => ?_
  split
  · exact LedgerM.confined_fail _
  · exact (LedgerM.confined_statement _).bind fun _ => LedgerM.confined_statement _

theorem write_ok {budget : BudgetId} {enabled : Bool} {sources : List SourceWeight}
    {now : Instant} {s t : Store} {r : Unit}
    (h : (write budget enabled sources now).onStore s = (.ok r, t)) :
    Replaces budget enabled sources now s t := by
  obtain ⟨rows, s₁, updated, h⟩ := (LedgerM.confined_statement _).onStore_bind_ok.1 h
  rw [LedgerM.onStore_statement] at updated
  cases updated
  split at h
  · cases h
  obtain ⟨_, s₂, deleted, h⟩ := (LedgerM.confined_statement _).onStore_bind_ok.1 h
  rw [LedgerM.onStore_statement] at deleted
  cases deleted
  rw [LedgerM.onStore_statement] at h
  split at h
  · rename_i added
    cases h
    have adds := insertEdges_ok added
    obtain ⟨budgets, entries, members, rejecting, lastBudget, lastEntry⟩ :=
      of_withoutEdges_eq adds.rest
    exact {
      budgets := by
        rw [budgets]
        refine List.map_congr_left fun b _ => ?_
        unfold Configured
        split <;> rfl
      edges := fun e => by
        rw [adds.edges]
        simp
      entries := entries
      lastEntry := lastEntry
      members := members
      rejecting := rejecting
      lastBudget := lastBudget }
  · cases h

theorem replace_eq (budget : BudgetId) (actor : Option UserId) (enabled : Bool)
    (sources : List SourceWeight) (now : Instant) :
    replace budget actor enabled sources now = (do
      ensureAccess budget actor
      match validate budget sources with
      | .ok () => do
        ensureSources actor sources
        (write budget enabled sources now).transaction
      | .error e => .fail e) := by
  rw [replace]
  rcases validate budget sources with _ | _ <;> rfl

/-- A replacement either fails and leaves the store as it was, or does all that it was asked. -/
theorem replace_cases (budget : BudgetId) (actor : Option UserId) (enabled : Bool)
    (sources : List SourceWeight) (now : Instant) (db : Database) :
    (∃ failure db', (replace budget actor enabled sources now).run db = (.error failure, db') ∧
      db'.store? = db.store?) ∨
    ∃ s t, db = .live s ∧ (replace budget actor enabled sources now).run db =
        (.ok (), .live { s with store := t }) ∧
      Replaces budget enabled sources now s.store t := by
  rw [replace_eq]
  rcases validate budget sources with e | _
  · rcases (reads_ensureAccess budget actor).bind_cases (fun _ => LedgerM.fail e) db with
      ⟨failure, failed⟩ | ⟨_, -, granted⟩
    · exact .inl ⟨failure, db, failed, rfl⟩
    · exact .inl ⟨.error e, db, granted, rfl⟩
  have checks : (do
      ensureAccess budget actor
      ensureSources actor sources).Reads :=
    (reads_ensureAccess budget actor).bind fun _ => reads_ensureSources actor sources
  rcases checks.bind_cases (fun _ => (write budget enabled sources now).transaction) db with
    ⟨failure, failed⟩ | ⟨_, -, granted⟩ <;> rw [bind_assoc] at *
  · exact .inl ⟨failure, db, failed, rfl⟩
  rw [granted]
  rcases LedgerM.run_transaction_cases (confined_write budget enabled sources now) db with
    failed | ⟨s, _, t, rfl, work, ran⟩
  · exact .inl failed
  · exact .inr ⟨s, t, rfl, ran, write_ok work⟩

end Paymaster.AutoBalance
