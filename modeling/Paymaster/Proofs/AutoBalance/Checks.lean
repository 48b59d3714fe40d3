import Mathlib
import Paymaster.Proofs.AutoBalance.Replacement
import Paymaster.Proofs.Ledger.Rows

/-
  When a configuration is replaced, and what is read back.
  `checks` lists all that a replacement checks, each check with its error and in the order in which
  they are made: whether the actor may act on the budget; of each source, whether it is another
  budget, its weight is in range and it was not listed before; of each source, whether the actor
  may act on it and whether it exists; and whether the budget exists. The first check that fails
  decides the error. If none fails the configuration is replaced, and the same actor reads back
  what was asked for, less the sources without weight (`replace_answers`).
-/

namespace Paymaster.AutoBalance

open Ledger

/-! ## The checks -/

/-- Something that is checked, and the error if it does not hold. -/
structure Check where
  holds : Bool
  error : Error

/-- The error of the first check that fails. -/
def firstError (checks : List Check) : Option Error :=
  (checks.find? fun c => !c.holds).map (·.error)

/-- The checks of a source that do not look at the store, given the sources listed before it. -/
def listingChecks (budget : BudgetId) (earlier : List SourceWeight) (x : SourceWeight) :
    List Check :=
  [⟨x.source ≠ budget, .selfReferencingSource budget⟩,
    ⟨0 ≤ x.weight.toInt ∧ x.weight.toInt ≤ 100, .invalidWeight x.source x.weight⟩,
    ⟨x.source ∉ earlier.map (·.source), .duplicateSource x.source⟩]

/-- The checks of a list of sources that do not look at the store, source by source. -/
def listChecks (budget : BudgetId) (sources : List SourceWeight) : List Check :=
  sources.zipIdx.flatMap fun p => listingChecks budget (sources.take p.2) p.1

/-- The checks of a source against the store. -/
def sourceChecks (s : Store) (actor : Option UserId) (x : SourceWeight) : List Check :=
  [⟨s.admits x.source actor, .budgetNotFound x.source⟩,
    ⟨s.hasBudget x.source, .budgetNotFound x.source⟩]

/-- The checks that are made before anything is written: of the target, of the list, and of the
sources in the store. -/
def checksBefore (s : Store) (budget : BudgetId) (actor : Option UserId)
    (sources : List SourceWeight) : List Check :=
  ⟨s.admits budget actor, .budgetNotFound budget⟩ ::
    (listChecks budget sources ++ sources.flatMap (sourceChecks s actor))

/-- All checks of a replacement, in their order. -/
def checks (s : Store) (budget : BudgetId) (actor : Option UserId) (sources : List SourceWeight) :
    List Check :=
  checksBefore s budget actor sources ++ [⟨s.hasBudget budget, .budgetNotFound budget⟩]

/-- What a replacement asks of the store and of the list of sources. -/
structure Acceptable (s : Store) (budget : BudgetId) (actor : Option UserId)
    (sources : List SourceWeight) : Prop where
  granted : s.admits budget actor
  present : s.hasBudget budget
  others : ∀ x ∈ sources, x.source ≠ budget
  weighted : ∀ x ∈ sources, 0 ≤ x.weight.toInt ∧ x.weight.toInt ≤ 100
  distinct : (sources.map (·.source)).Nodup
  sources_granted : ∀ x ∈ sources, s.admits x.source actor
  sources_present : ∀ x ∈ sources, s.hasBudget x.source

theorem firstError_cons (c : Check) (cs : List Check) :
    firstError (c :: cs) = if c.holds then firstError cs else some c.error := by
  rcases holds : c.holds <;> simp [firstError, holds]

theorem firstError_append (cs ds : List Check) :
    firstError (cs ++ ds) = (firstError cs).or (firstError ds) := by
  induction cs with
  | nil => rfl
  | cons c cs ih =>
    rw [List.cons_append, firstError_cons, firstError_cons, ih]
    split <;> rfl

theorem firstError_eq_none {cs : List Check} : firstError cs = none ↔ ∀ c ∈ cs, c.holds := by
  simp [firstError]

/-- No source is listed twice if none is among those before it. -/
theorem nodup_iff_forall_zipIdx {sources : List SourceWeight} :
    (sources.map (·.source)).Nodup ↔
      ∀ p ∈ sources.zipIdx, p.1.source ∉ (sources.take p.2).map (·.source) := by
  rw [List.Nodup, List.pairwise_map, List.pairwise_iff_getElem]
  constructor
  · intro apart p listed again
    obtain ⟨inside, found⟩ := List.getElem?_eq_some_iff.1 (List.mem_zipIdx_iff_getElem?.1 listed)
    obtain ⟨y, earlier, same⟩ := List.mem_map.1 again
    obtain ⟨before, bound, rfl⟩ := List.mem_take_iff_getElem.1 earlier
    refine apart before p.2 (by omega) inside (by omega) ?_
    rw [found, same]
  · intro unseen before place _ inside earlier same
    refine unseen (sources[place], place) ?_ (List.mem_map.2 ⟨sources[before], ?_, same⟩)
    · exact List.mem_zipIdx_iff_getElem?.2 (List.getElem?_eq_getElem inside)
    · exact List.mem_take_iff_getElem.2 ⟨before, by omega, rfl⟩

theorem firstError_checks_eq_none {s : Store} {budget : BudgetId} {actor : Option UserId}
    {sources : List SourceWeight} :
    firstError (checks s budget actor sources) = none ↔ Acceptable s budget actor sources := by
  have fst_mem {p : SourceWeight × Nat} (hp : p ∈ sources.zipIdx) : p.1 ∈ sources :=
    List.fst_mem_of_mem_zipIdx hp
  have listed {x : SourceWeight} (hx : x ∈ sources) : ∃ p ∈ sources.zipIdx, p.1 = x := by
    obtain ⟨place, inside, rfl⟩ := List.getElem_of_mem hx
    exact ⟨(sources[place], place),
      List.mem_zipIdx_iff_getElem?.2 (List.getElem?_eq_getElem inside), rfl⟩
  have nothing : (∀ c ∈ ([] : List Check), c.holds) ↔ True := by simp
  rw [firstError_eq_none]
  simp only [checks, checksBefore, listChecks, listingChecks, sourceChecks, List.forall_mem_cons,
    List.forall_mem_append, List.forall_mem_flatMap, decide_eq_true_eq, nothing, and_true]
  constructor
  · rintro ⟨⟨granted, list, sources⟩, present⟩
    exact {
      granted := granted
      present := present
      others := fun x hx => by
        obtain ⟨p, hp, rfl⟩ := listed hx
        exact (list p hp).1
      weighted := fun x hx => by
        obtain ⟨p, hp, rfl⟩ := listed hx
        exact (list p hp).2.1
      distinct := nodup_iff_forall_zipIdx.2 fun p hp => (list p hp).2.2
      sources_granted := fun x hx => (sources x hx).1
      sources_present := fun x hx => (sources x hx).2 }
  · intro h
    exact ⟨⟨h.granted, fun p hp => ⟨h.others _ (fst_mem hp), h.weighted _ (fst_mem hp),
      nodup_iff_forall_zipIdx.1 h.distinct p hp⟩,
      fun x hx => ⟨h.sources_granted x hx, h.sources_present x hx⟩⟩, h.present⟩

/-! ## The sources on their own -/

theorem weight_outside_iff (w : Int32) :
    (w < 0 || maxWeight < w) = !decide (0 ≤ w.toInt ∧ w.toInt ≤ 100) := by
  have zero : (0 : Int32).toInt = 0 := rfl
  have most : maxWeight.toInt = 100 := rfl
  rw [Bool.eq_iff_iff]
  simp only [Bool.or_eq_true, decide_eq_true_eq, Bool.not_eq_true', decide_eq_false_iff_not,
    Int32.lt_iff_toInt_lt, zero, most]
  omega

/-- The sources are checked one by one, the ids of those before being seen. -/
theorem validateFrom_eq {budget : BudgetId} {seen : List BudgetId}
    (earlier rest : List SourceWeight) (hseen : ∀ id, id ∈ seen ↔ id ∈ earlier.map (·.source)) :
    validateFrom budget seen rest =
      match firstError ((rest.zipIdx earlier.length).flatMap fun p =>
        listingChecks budget ((earlier ++ rest).take p.2) p.1) with
      | some e => .error e
      | none => .ok () := by
  induction rest generalizing seen earlier with
  | nil => rfl
  | cons x rest ih =>
    have seen_too : ∀ id, id ∈ x.source :: seen ↔ id ∈ (earlier ++ [x]).map (·.source) := by
      simp [hseen, or_comm]
    have later := ih (earlier ++ [x]) seen_too
    rw [List.length_append, List.length_singleton, List.append_assoc,
      List.singleton_append] at later
    rw [validateFrom, later, List.zipIdx_cons, List.flatMap_cons, List.take_left, listingChecks]
    have twice : seen.contains x.source = decide (x.source ∈ earlier.map (·.source)) := by
      rw [List.contains_eq_mem]
      exact decide_eq_decide.2 (hseen x.source)
    simp only [List.cons_append, List.nil_append, firstError_cons, weight_outside_iff, twice]
    generalize firstError _ = later
    by_cases self : x.source = budget
    · simp [self]
    by_cases weighted : 0 ≤ x.weight.toInt ∧ x.weight.toInt ≤ 100
    · by_cases again : x.source ∈ earlier.map (·.source)
      · simp [self, weighted, again]
      · simp [self, weighted, again]
    · simp [self, weighted]

theorem validate_eq (budget : BudgetId) (sources : List SourceWeight) :
    validate budget sources =
      match firstError (listChecks budget sources) with
      | some e => .error e
      | none => .ok () :=
  validateFrom_eq [] sources (by simp)

/-! ## The sources in the store -/

theorem run_ensureSources (actor : Option UserId) (sources : List SourceWeight) (s : Session) :
    (ensureSources actor sources).run (.live s) =
      match firstError (sources.flatMap (sourceChecks s.store actor)) with
      | some e => (.error (.error e), .live s)
      | none => (.ok (), .live s) := by
  induction sources with
  | nil => rfl
  | cons x rest ih =>
    rw [ensureSources, LedgerM.run_bind, run_ensureAccess, List.flatMap_cons, sourceChecks]
    simp only [List.cons_append, List.nil_append, firstError_cons]
    by_cases granted : s.store.admits x.source actor
    · rw [if_pos granted, if_pos granted]
      dsimp only
      rw [LedgerM.run_bind, run_lockBudget, Store.hasBudget]
      rcases row : s.store.budget? x.source with _ | b
      · rfl
      · exact ih
    · rw [if_neg granted, if_neg granted]

/-! ## The writes -/

theorem hasBudget_of_withoutEdges {s t : Store} (h : withoutEdges t = withoutEdges s)
    (id : BudgetId) : t.hasBudget id = s.hasBudget id := by
  rw [Store.hasBudget, Store.budget?, (of_withoutEdges_eq h).1]
  rfl

/-- Edges between budgets that exist can be added if no two of them, and none of them and an old
one, join the same budgets. -/
theorem exists_insertEdges {es : List Edge} {s : Store}
    (ends : ∀ e ∈ es, s.hasBudget e.target ∧ s.hasBudget e.source)
    (new : ∀ e ∈ es, ∀ old ∈ s.edges, ¬(old.target = e.target ∧ old.source = e.source))
    (apart : es.Pairwise fun a b => ¬(a.target = b.target ∧ a.source = b.source)) :
    ∃ t, Store.insertEdges es s = .ok ((), t) := by
  induction es generalizing s with
  | nil => exact ⟨s, rfl⟩
  | cons e es ih =>
    obtain ⟨unlike, apart⟩ := List.pairwise_cons.1 apart
    obtain ⟨u, added⟩ : ∃ u, Store.insertEdge e s = .ok ((), u) := by
      have fresh : ¬s.edges.any fun old => old.target = e.target && old.source = e.source := by
        simpa using new e List.mem_cons_self
      have present : s.hasBudget e.target && s.hasBudget e.source := by
        simpa using ends e List.mem_cons_self
      unfold Store.insertEdge
      rw [dif_neg fresh, if_pos present]
      exact ⟨_, rfl⟩
    have adds := insertEdge_ok added
    have rest : ∃ t, Store.insertEdges es u = .ok ((), t) := by
      refine ih (fun f hf => ?_) (fun f hf old hold => ?_) apart
      · rw [hasBudget_of_withoutEdges adds.rest, hasBudget_of_withoutEdges adds.rest]
        exact ends f (List.mem_cons_of_mem e hf)
      · rcases (adds.edges old).1 hold with one | before
        · rw [List.mem_singleton.1 one]
          exact unlike f hf
        · exact new f (List.mem_cons_of_mem e hf) old before
    simpa only [Store.insertEdges, added] using rest

/-- Of a budget that is not there nothing can be written. -/
theorem onStore_write_of_missing (enabled : Bool) (sources : List SourceWeight) (now : Instant)
    {budget : BudgetId} {s : Store} (missing : ¬s.hasBudget budget) :
    ((write budget enabled sources now).onStore s).1 =
      .error (.error (.budgetNotFound budget)) := by
  rw [write, (LedgerM.confined_statement _).onStore_bind, LedgerM.onStore_statement]
  dsimp only [Store.updateBudget]
  rw [if_pos (Store.rows_eq_zero_iff.2 missing)]
  rfl

/-- To change a row takes no budget away and adds none. -/
theorem exists_updateBudget (id : BudgetId) (change : Budget → Budget) (s : Store) :
    ∃ t, Store.updateBudget id change s = .ok ((s.budgets.filter (·.id = id)).length, t) ∧
      ∀ other, t.hasBudget other = s.hasBudget other := by
  have ids (b : Budget) : (if b.id = id then { change b with id := b.id } else b).id = b.id := by
    split <;> rfl
  refine ⟨_, rfl, fun other => ?_⟩
  simp only [Store.hasBudget, Store.budget?, List.find?_map, Function.comp_def, ids,
    Option.isSome_map]

theorem exists_deleteSourcesOf (target : BudgetId) (s : Store) :
    ∃ rows t, Store.deleteSourcesOf target s = .ok (rows, t) ∧
      (∀ e ∈ t.edges, e.target ≠ target) ∧ ∀ id, t.hasBudget id = s.hasBudget id :=
  ⟨_, _, rfl, fun _ he => by simpa using (List.mem_filter.1 he).2, fun _ => rfl⟩

/-- If the checks are passed, all writes succeed. -/
theorem onStore_write_of_acceptable {budget : BudgetId} {actor : Option UserId} (enabled : Bool)
    {sources : List SourceWeight} (now : Instant) {s : Store}
    (h : Acceptable s budget actor sources) :
    ∃ t, (write budget enabled sources now).onStore s = (.ok (), t) := by
  obtain ⟨u, updated, budgets⟩ := exists_updateBudget budget
    (fun b => { b with autoBalance := enabled, updatedAt := now }) s
  obtain ⟨rows, v, deleted, cleared, budgets'⟩ := exists_deleteSourcesOf budget u
  have kept : sources.filter (0 < ·.weight) ⊆ sources := List.filter_subset_self _
  obtain ⟨t, added⟩ : ∃ t, Store.insertEdges (edges budget sources) v = .ok ((), t) := by
    refine exists_insertEdges (fun e he => ?_) (fun e he old hold same => ?_) ?_
    · obtain ⟨x, hx, rfl⟩ := List.mem_map.1 he
      rw [budgets', budgets', budgets, budgets]
      exact ⟨h.present, h.sources_present x (kept hx)⟩
    · obtain ⟨x, -, rfl⟩ := List.mem_map.1 he
      exact cleared old hold same.1
    · refine List.pairwise_map.2 ((List.pairwise_map.1 h.distinct).filter _ |>.imp ?_)
      intro x y unlike same
      exact unlike same.2
  refine ⟨t, ?_⟩
  rw [write, (LedgerM.confined_statement _).onStore_bind, LedgerM.onStore_statement, updated]
  dsimp only
  rw [if_neg (mt Store.rows_eq_zero_iff.1 (not_not.2 h.present)),
    (LedgerM.confined_statement _).onStore_bind, LedgerM.onStore_statement, deleted]
  dsimp only
  rw [LedgerM.onStore_statement, added]

/-! ## The answer -/

theorem run_replace (budget : BudgetId) (actor : Option UserId) (enabled : Bool)
    (sources : List SourceWeight) (now : Instant) (s : Session) :
    (replace budget actor enabled sources now).run (.live s) =
      match firstError (checksBefore s.store budget actor sources) with
      | some e => (.error (.error e), .live s)
      | none => (write budget enabled sources now).transaction.run (.live s) := by
  rw [replace_eq, LedgerM.run_bind, run_ensureAccess, validate_eq, checksBefore, firstError_cons,
    firstError_append]
  by_cases granted : s.store.admits budget actor
  · rw [if_pos granted, if_pos granted]
    dsimp only
    rcases firstError (listChecks budget sources) with _ | e
    · dsimp only [Option.none_or]
      rw [LedgerM.run_bind, run_ensureSources]
      rcases firstError (sources.flatMap (sourceChecks s.store actor)) with _ | e <;> rfl
    · rfl
  · rw [if_neg granted, if_neg granted]

/-! ## Reading back -/

theorem run_read {budget : BudgetId} {actor : Option UserId} {s : Session} {b : Budget}
    (granted : s.store.admits budget actor) (row : s.store.budget? budget = some b) :
    (read budget actor).run (.live s) =
      (.ok ⟨b.autoBalance, (s.store.sourcesOf budget).map fun e => ⟨e.source, e.weight⟩⟩,
        .live s) := by
  rw [read, LedgerM.run_bind, run_ensureAccess, if_pos granted]
  dsimp only
  rw [LedgerM.run_bind, run_lockBudget, row]
  rfl

/-- The edges of a budget are listed by source id. -/
theorem ascending_sourcesOf (s : Store) (target : BudgetId) :
    (s.sourcesOf target).Pairwise (·.source < ·.source) := by
  refine (s.edges_byKey.filter _).imp_of_mem fun {a b} ha hb before => ?_
  have hta : a.target = target := by simpa using (List.mem_filter.1 ha).2
  have htb : b.target = target := by simpa using (List.mem_filter.1 hb).2
  rcases Edge.before_iff.1 before with smaller | ⟨-, smaller⟩
  · rw [hta, htb, Int64.lt_iff_toInt_lt] at smaller
    omega
  · exact smaller

/-- The edges of the budget afterwards are the listed sources that have weight. -/
theorem Replaces.mem_sourcesOf {budget : BudgetId} {enabled : Bool} {sources : List SourceWeight}
    {now : Instant} {s t : Store} (h : Replaces budget enabled sources now s t) {x : SourceWeight} :
    x ∈ (t.sourcesOf budget).map (fun e => ⟨e.source, e.weight⟩) ↔
      x ∈ sources ∧ 0 < x.weight.toInt := by
  have asked {e : Edge} : e ∈ AutoBalance.edges budget sources ↔
      ∃ y, (y ∈ sources ∧ 0 < y.weight.toInt) ∧ ⟨budget, y.source, y.weight⟩ = e := by
    simp only [AutoBalance.edges, List.mem_map, List.mem_filter, decide_eq_true_eq,
      Int32.lt_iff_toInt_lt, show (0 : Int32).toInt = 0 from rfl]
  constructor
  · intro found
    obtain ⟨e, he, rfl⟩ := List.mem_map.1 found
    obtain ⟨he, target⟩ := List.mem_filter.1 he
    rcases (h.edges e).1 he with new | ⟨-, other⟩
    · obtain ⟨y, hy, rfl⟩ := asked.1 new
      exact hy
    · exact absurd (of_decide_eq_true target) other
  · intro hx
    refine List.mem_map.2 ⟨⟨budget, x.source, x.weight⟩, List.mem_filter.2 ⟨?_, ?_⟩, rfl⟩
    · exact (h.edges _).2 (.inl (asked.2 ⟨x, hx, rfl⟩))
    · exact decide_eq_true rfl

/-! ## The replacement as a whole -/

section
variable {budget : BudgetId} {actor : Option UserId} {sources : List SourceWeight} {s : Session}

/-- The first check that fails decides the error, and nothing is changed. -/
theorem replace_refused (enabled : Bool) (now : Instant) {e : Error}
    (h : firstError (checks s.store budget actor sources) = some e) :
    ∃ db, (replace budget actor enabled sources now).run (.live s) = (.error (.error e), db) ∧
      db.store? = some s.store := by
  rw [checks, firstError_append] at h
  rw [run_replace]
  rcases before : firstError (checksBefore s.store budget actor sources) with _ | e'
  · rw [before, Option.none_or, firstError_cons] at h
    split at h
    · cases h
    · rename_i missing
      cases h
      have refused := onStore_write_of_missing enabled sources now missing
      dsimp only
      rw [(confined_write budget enabled sources now).run_transaction]
      rcases work : (write budget enabled sources now).onStore s.store with ⟨_ | _, t⟩ <;>
        rw [work] at refused <;> cases refused
      exact ⟨_, rfl, rfl⟩
  · rw [before, Option.some_or] at h
    cases h
    exact ⟨_, rfl, rfl⟩

theorem replace_accepted (enabled : Bool) (now : Instant)
    (h : Acceptable s.store budget actor sources) :
    ∃ t, (replace budget actor enabled sources now).run (.live s) =
        (.ok (), .live { s with store := t }) ∧
      Replaces budget enabled sources now s.store t := by
  obtain ⟨t, work⟩ := onStore_write_of_acceptable enabled now h
  have passed := firstError_checks_eq_none.2 h
  rw [checks, firstError_append, Option.or_eq_none_iff] at passed
  refine ⟨t, ?_, write_ok work⟩
  rw [run_replace, passed.1]
  dsimp only
  rw [(confined_write budget enabled sources now).run_transaction, work]

/-- What the actor reads once the configuration is replaced. -/
theorem run_read_of_replaces {enabled : Bool} {now : Instant} {t : Store}
    (h : Acceptable s.store budget actor sources)
    (replaced : Replaces budget enabled sources now s.store t) :
    (read budget actor).run (.live { s with store := t }) =
      (.ok ⟨enabled, (t.sourcesOf budget).map fun e => ⟨e.source, e.weight⟩⟩,
        .live { s with store := t }) := by
  obtain ⟨b, row⟩ := Option.isSome_iff_exists.1 h.present
  have after : t.budget? budget = some (Configured budget enabled now b) := by
    rw [replaced.budget?, row]
    rfl
  have granted : t.admits budget actor := by
    rw [Store.admits_congr replaced.members]
    exact h.granted
  rw [run_read (s := { s with store := t }) granted after, Configured,
    if_pos (Store.budget?_eq_some_iff.1 row).2]

end

/-- A replacement succeeds just if it is acceptable, and otherwise it gives the error of the first
check that fails and changes nothing. Once it has succeeded, the same actor reads the flag and,
by id, exactly the listed sources that have weight; the row's flag and its time of change and the
edges of the budget are all that it changed. -/
theorem replace_answers (budget : BudgetId) (actor : Option UserId) (enabled : Bool)
    (sources : List SourceWeight) (now : Instant) (s : Session) :
    (((replace budget actor enabled sources now).run (.live s)).1 = .ok () ↔
      Acceptable s.store budget actor sources) ∧
    match firstError (checks s.store budget actor sources) with
    | some e => ∃ db, (replace budget actor enabled sources now).run (.live s) =
        (.error (.error e), db) ∧ db.store? = some s.store
    | none => ∃ t found, (replace budget actor enabled sources now).run (.live s) =
          (.ok (), .live { s with store := t }) ∧
        Replaces budget enabled sources now s.store t ∧
        (read budget actor).run (.live { s with store := t }) =
          (.ok found, .live { s with store := t }) ∧
        found.enabled = enabled ∧ found.sources.Pairwise (·.source < ·.source) ∧
        ∀ x, x ∈ found.sources ↔ x ∈ sources ∧ 0 < x.weight.toInt := by
  rcases first : firstError (checks s.store budget actor sources) with _ | e
  · have h := firstError_checks_eq_none.1 first
    obtain ⟨t, ran, replaced⟩ := replace_accepted enabled now h
    refine ⟨by rw [ran]; exact ⟨fun _ => h, fun _ => rfl⟩, t, _, ran, replaced,
      run_read_of_replaces h replaced, rfl, ?_, fun x => replaced.mem_sourcesOf⟩
    exact List.pairwise_map.2 (ascending_sourcesOf t budget)
  · obtain ⟨db, ran, kept⟩ := replace_refused enabled now first
    refine ⟨?_, db, ran, kept⟩
    rw [ran]
    refine ⟨nofun, fun h => ?_⟩
    rw [firstError_checks_eq_none.2 h] at first
    cases first

end Paymaster.AutoBalance
