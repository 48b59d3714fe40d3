import Paymaster.Proofs.Ledger.Confined
import Paymaster.Proofs.Ledger.Rows

/-
  What the writes of a run do to a store.
  A run writes in two ways: it puts entries at the end of the ledger and it stamps the rows of
  budgets with a run marker. `Wrote now news stamps s t` says that from `s` to `t` exactly these
  entries and stamps were written, in order; it composes (`Wrote.trans`). `insertEntry_ok` and
  `markRun_ok` give it for the two statements.
-/

namespace Paymaster

/-- The row once its run marker is set. -/
def Budget.stamp (b : Budget) (runAt : Instant) : Budget :=
  { b with runAt := some runAt, updatedAt := runAt }

/-- The row once a list of stamps is set, each on the budget of its id. -/
def Budget.stampAll (stamps : List (BudgetId × Instant)) (b : Budget) : Budget :=
  stamps.foldl (fun b p => if b.id = p.1 then b.stamp p.2 else b) b

namespace Budget

theorem stampAll_append (ps qs : List (BudgetId × Instant)) (b : Budget) :
    b.stampAll (ps ++ qs) = (b.stampAll ps).stampAll qs := by
  simp [stampAll, List.foldl_append]

@[simp] theorem stampAll_id (ps : List (BudgetId × Instant)) (b : Budget) :
    (b.stampAll ps).id = b.id := by
  induction ps generalizing b with
  | nil => rfl
  | cons p ps ih =>
    show ((if b.id = p.1 then b.stamp p.2 else b).stampAll ps).id = b.id
    rw [ih]
    split <;> rfl

theorem stampAll_of_forall_ne {ps : List (BudgetId × Instant)} {b : Budget}
    (h : ∀ p ∈ ps, p.1 ≠ b.id) : b.stampAll ps = b := by
  induction ps with
  | nil => rfl
  | cons p ps ih =>
    have other : ¬b.id = p.1 := fun same => h p List.mem_cons_self same.symm
    show (if b.id = p.1 then b.stamp p.2 else b).stampAll ps = b
    rw [if_neg other]
    exact ih fun q hq => h q (List.mem_cons_of_mem p hq)

/-- Of stamps on budgets that all differ, a row gets its own. -/
theorem stampAll_of_mem {ps : List (BudgetId × Instant)} {b : Budget} {p : BudgetId × Instant}
    (distinct : (ps.map (·.1)).Nodup) (hp : p ∈ ps) (hb : p.1 = b.id) :
    b.stampAll ps = b.stamp p.2 := by
  induction ps generalizing b with
  | nil => cases hp
  | cons q ps ih =>
    obtain ⟨hq, distinct⟩ := List.nodup_cons.1 distinct
    show (if b.id = q.1 then b.stamp q.2 else b).stampAll ps = b.stamp p.2
    rcases List.mem_cons.1 hp with rfl | hp
    · rw [if_pos hb.symm]
      refine stampAll_of_forall_ne fun r hr same => hq ?_
      exact List.mem_map.2 ⟨r, hr, same.trans hb.symm⟩
    · have other : ¬b.id = q.1 := fun same =>
        hq (List.mem_map.2 ⟨p, hp, hb.trans same⟩)
      rw [if_neg other]
      exact ih distinct hp hb

end Budget

namespace Ledger

/-- The id after as many new ones. -/
def advance (last : Int64) (news : List NewEntry) : Int64 := news.foldl (fun id _ => id + 1) last

namespace NewEntry

/-- The records of new entries, numbered on from the last id. -/
def records (now : Instant) : Int64 → List NewEntry → List Entry
  | _, [] => []
  | last, e :: es => e.record now (last + 1) :: records now (last + 1) es

theorem records_append (now : Instant) (last : Int64) (es fs : List NewEntry) :
    records now last (es ++ fs) = records now last es ++ records now (advance last es) fs := by
  induction es generalizing last with
  | nil => rfl
  | cons e es ih =>
    show _ :: records now (last + 1) (es ++ fs) = _
    rw [ih]
    rfl

theorem mem_records {now : Instant} {last : Int64} {news : List NewEntry} {e : Entry}
    (h : e ∈ records now last news) : ∃ n ∈ news, ∃ id, e = n.record now id := by
  induction news generalizing last with
  | nil => cases h
  | cons n news ih =>
    rcases List.mem_cons.1 h with rfl | h
    · exact ⟨n, List.mem_cons_self, _, rfl⟩
    · obtain ⟨n', hn, made⟩ := ih h
      exact ⟨n', List.mem_cons_of_mem n hn, made⟩

/-- Records stand to each other as the new entries do. -/
theorem pairwise_records {R : NewEntry → NewEntry → Prop} {Q : Entry → Entry → Prop}
    {now : Instant} (lift : ∀ m n i k, R m n → Q (m.record now i) (n.record now k)) {last : Int64}
    {news : List NewEntry} (h : news.Pairwise R) : (records now last news).Pairwise Q := by
  induction news generalizing last with
  | nil => exact .nil
  | cons m news ih =>
    obtain ⟨before, h⟩ := List.pairwise_cons.1 h
    refine List.pairwise_cons.2 ⟨fun e he => ?_, ih h⟩
    obtain ⟨n, hn, id, rfl⟩ := mem_records he
    exact lift m n _ id (before n hn)

end NewEntry

/-- From `s` to `t` these entries were put at the end of the ledger and these stamps were set, and
nothing else changed. -/
structure Wrote (now : Instant) (news : List NewEntry) (stamps : List (BudgetId × Instant))
    (s t : Store) : Prop where
  entries : t.entries = s.entries ++ NewEntry.records now s.lastEntry news
  lastEntry : t.lastEntry = advance s.lastEntry news
  budgets : t.budgets = s.budgets.map (Budget.stampAll stamps)
  edges : t.edges = s.edges
  members : t.members = s.members
  rejecting : t.rejecting = s.rejecting
  lastBudget : t.lastBudget = s.lastBudget

section
variable {now : Instant} {news more : List NewEntry} {stamps others : List (BudgetId × Instant)}
  {s t u : Store}

theorem Wrote.refl (now : Instant) (s : Store) : Wrote now [] [] s s where
  entries := by simp [NewEntry.records]
  lastEntry := rfl
  budgets := (List.map_id s.budgets).symm
  edges := rfl
  members := rfl
  rejecting := rfl
  lastBudget := rfl

theorem Wrote.trans (h : Wrote now news stamps s t) (k : Wrote now more others t u) :
    Wrote now (news ++ more) (stamps ++ others) s u where
  entries := by
    rw [k.entries, h.entries, h.lastEntry, NewEntry.records_append, List.append_assoc]
  lastEntry := by
    rw [k.lastEntry, h.lastEntry, advance, advance, advance, List.foldl_append]
  budgets := by
    rw [k.budgets, h.budgets, List.map_map]
    exact List.map_congr_left fun b _ => (Budget.stampAll_append stamps others b).symm
  edges := k.edges.trans h.edges
  members := k.members.trans h.members
  rejecting := k.rejecting.trans h.rejecting
  lastBudget := k.lastBudget.trans h.lastBudget

/-- The row of a budget afterwards. -/
theorem Wrote.budget? (h : Wrote now news stamps s t) (id : BudgetId) :
    t.budget? id = (s.budget? id).map (Budget.stampAll stamps) := by
  simp only [Store.budget?, h.budgets, List.find?_map, Function.comp_def, Budget.stampAll_id]

theorem Wrote.hasBudget (h : Wrote now news stamps s t) (id : BudgetId) :
    t.hasBudget id = s.hasBudget id := by
  rw [Store.hasBudget, h.budget?, Option.isSome_map, Store.hasBudget]

end

/-! ## The two statements -/

theorem nextId_ok {last id : Int64} {h : last < id} (ok : Store.nextId last = .ok ⟨id, h⟩) :
    id = last + 1 := by
  unfold Store.nextId at ok
  split at ok
  · cases ok
    rfl
  · cases ok

theorem confined_insertEntry (e : NewEntry) (now : Instant) :
    LedgerM.Confined (insertEntry e now) := by
  unfold insertEntry
  split
  · exact LedgerM.confined_statement _
  · exact LedgerM.confined_fail _

/-- No id is left for an entry. -/
def outOfIds : Failure := .error (.database Store.idsExhausted)

/-- Why an entry is refused, if it is. -/
def refusal (e : NewEntry) (s : Store) : Option Failure :=
  if ¬e.amount.isPositive then some (.error (.invalidAmount e.amount))
  else if e.budget ∈ s.rejecting then some (.error (.database Store.entryRejected))
  else if ¬s.lastEntry < Int64.maxValue then some outOfIds
  else if ¬s.hasBudget e.budget then some (.error (.database Store.foreignKeyFailed))
  else none

/-- An entry that is refused changes nothing. -/
theorem onStore_insertEntry (e : NewEntry) (now : Instant) (s : Store) :
    match refusal e s with
    | some failure => (insertEntry e now).onStore s = (.error failure, s)
    | none => ∃ r t, (insertEntry e now).onStore s = (.ok r, t) := by
  unfold refusal insertEntry
  by_cases positive : e.amount.isPositive
  · rw [if_pos positive, LedgerM.onStore_statement, Store.insertEntry]
    by_cases rejects : e.budget ∈ s.rejecting
    · simp [positive, rejects]
    by_cases room : s.lastEntry < Int64.maxValue
    · by_cases present : s.hasBudget e.budget <;>
        simp [positive, rejects, room, present, Store.nextId]
    · simp [positive, rejects, room, Store.nextId, outOfIds]
  · simp [positive, LedgerM.onStore_fail]

/-- An entry that is written is positive, for a budget that exists and takes entries, and it gets a
new id. -/
theorem insertEntry_ok {e : NewEntry} {now : Instant} {s t : Store} {r : Entry}
    (h : (insertEntry e now).onStore s = (.ok r, t)) :
    Wrote now [e] [] s t ∧ e.amount.isPositive ∧ s.hasBudget e.budget ∧
      ¬s.rejecting.contains e.budget ∧ s.lastEntry < t.lastEntry := by
  unfold insertEntry at h
  split at h
  · rename_i positive
    rw [LedgerM.onStore_statement] at h
    simp only [Store.insertEntry] at h
    by_cases rejects : s.rejecting.contains e.budget
    · rw [if_pos rejects] at h
      cases h
    rw [if_neg rejects] at h
    rcases next : Store.nextId s.lastEntry with cause | ⟨id, last_lt⟩ <;> rw [next] at h
    · cases h
    by_cases present : s.hasBudget e.budget
    · simp only [present, if_true] at h
      cases h
      obtain rfl := nextId_ok next
      exact ⟨{
        entries := rfl
        lastEntry := rfl
        budgets := (List.map_id s.budgets).symm
        edges := rfl
        members := rfl
        rejecting := rfl
        lastBudget := rfl }, positive, present, rejects, last_lt⟩
    · simp only [present] at h
      cases h
  · rw [LedgerM.onStore_fail] at h
    cases h

theorem confined_markRun (id : BudgetId) (now : Instant) : LedgerM.Confined (markRun id now) := by
  refine (LedgerM.confined_statement _).bind fun rows => ?_
  split
  · exact LedgerM.confined_fail _
  · exact LedgerM.confined_pure _

/-- The answer is that of the rows it found. -/
theorem answer_markRun (id : BudgetId) (runAt : Instant) (s : Store) :
    ((markRun id runAt).onStore s).1 =
      if s.hasBudget id then .ok () else .error (.error (.budgetNotFound id)) := by
  rw [markRun, (LedgerM.confined_statement _).onStore_bind, LedgerM.onStore_statement]
  dsimp only [Store.updateBudget]
  by_cases present : s.hasBudget id
  · rw [if_neg (mt Store.rows_eq_zero_iff.1 (not_not_intro present)), if_pos present]
    rfl
  · rw [if_pos (Store.rows_eq_zero_iff.2 present), if_neg present]
    rfl

/-- Whether or not its budget exists, nothing but a marker is set. -/
theorem wrote_markRun (now : Instant) (id : BudgetId) (runAt : Instant) (s : Store) :
    Wrote now [] [(id, runAt)] s ((markRun id runAt).onStore s).2 := by
  obtain ⟨rows, t, updated⟩ : ∃ rows t, Store.updateBudget id
      (fun b => { b with runAt := some runAt, updatedAt := runAt }) s = .ok (rows, t) :=
    ⟨_, _, rfl⟩
  have wrote : Wrote now [] [(id, runAt)] s t := by
    cases updated
    exact {
      entries := by simp [NewEntry.records]
      lastEntry := rfl
      budgets := rfl
      edges := rfl
      members := rfl
      rejecting := rfl
      lastBudget := rfl }
  rw [markRun, (LedgerM.confined_statement _).onStore_bind, LedgerM.onStore_statement, updated]
  dsimp only
  split <;> exact wrote

/-- A marker that is set belongs to a budget that exists. -/
theorem markRun_ok (now : Instant) {id : BudgetId} {runAt : Instant} {s t : Store} {r : Unit}
    (h : (markRun id runAt).onStore s = (.ok r, t)) :
    Wrote now [] [(id, runAt)] s t ∧ s.hasBudget id := by
  have wrote := wrote_markRun now id runAt s
  have answer := answer_markRun id runAt s
  rw [h] at wrote answer
  refine ⟨wrote, Decidable.byContradiction fun missing => ?_⟩
  rw [if_neg missing] at answer
  cases answer

end Ledger

end Paymaster
