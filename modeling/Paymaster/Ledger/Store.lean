import Paymaster.Ledger.Record

/-
  The store: budgets, ledger entries, edges and members, and the statements that change them.
  Budgets and entries are listed by id, edges and members by their pair of keys, and no key comes
  twice; the store carries the proofs. A new id is one past the largest that was ever given out, so
  a deleted id does not come back. A statement either gives a result and the new store, or is
  refused and changes nothing.
-/

namespace Paymaster

/-! ## Lists in the order of a key -/

/-- Puts `x` before the first element that it comes before. -/
def insertBy {α : Type} (before : α → α → Bool) (x : α) : List α → List α
  | [] => [x]
  | y :: ys => if before x y then x :: y :: ys else y :: insertBy before x ys

section
variable {α : Type} {before : α → α → Bool} {x : α}

theorem mem_insertBy {y : α} {ys : List α} : y ∈ insertBy before x ys ↔ y = x ∨ y ∈ ys := by
  induction ys with
  | nil => simp [insertBy]
  | cons z zs ih =>
    simp only [insertBy]
    split
    · simp
    · simp only [List.mem_cons, ih]
      exact ⟨fun h => by rcases h with h | h | h <;> simp [h],
        fun h => by rcases h with h | h | h <;> simp [h]⟩

/-- An ordered list stays so if every element of it comes before or after the new one. -/
theorem pairwise_insertBy (trans : ∀ a b c, before a b → before b c → before a c) {ys : List α}
    (h : ys.Pairwise (before · ·)) (comparable : ∀ y ∈ ys, before x y ∨ before y x) :
    (insertBy before x ys).Pairwise (before · ·) := by
  induction ys with
  | nil => simp [insertBy]
  | cons y ys ih =>
    obtain ⟨hy, hys⟩ := List.pairwise_cons.1 h
    simp only [insertBy]
    split
    · rename_i hxy
      refine List.pairwise_cons.2 ⟨fun z hz => ?_, h⟩
      rcases List.mem_cons.1 hz with rfl | hz
      · exact hxy
      · exact trans x y z hxy (hy z hz)
    · rename_i hxy
      have hyx : before y x := (comparable y List.mem_cons_self).resolve_left hxy
      refine List.pairwise_cons.2 ⟨fun z hz => ?_, ih hys fun z hz =>
        comparable z (List.mem_cons_of_mem y hz)⟩
      rcases mem_insertBy.1 hz with rfl | hz
      · exact hyx
      · exact hy z hz

end

theorem word_trans {a b c : Int64} (hab : a < b) (hbc : b < c) : a < c := by
  rw [Int64.lt_iff_toInt_lt] at *
  omega

theorem word_comparable {a b : Int64} (h : a ≠ b) : a < b ∨ b < a := by
  rw [Int64.lt_iff_toInt_lt, Int64.lt_iff_toInt_lt]
  have := mt Int64.toInt_inj.1 h
  omega

/-- The lexicographic order of pairs of words. -/
theorem pair_trans {a b c a' b' c' : Int64} (hab : a < b ∨ a = b ∧ a' < b')
    (hbc : b < c ∨ b = c ∧ b' < c') : a < c ∨ a = c ∧ a' < c' := by
  rcases hab with hab | ⟨rfl, hab⟩ <;> rcases hbc with hbc | ⟨rfl, hbc⟩
  · exact .inl (word_trans hab hbc)
  · exact .inl hab
  · exact .inl hbc
  · exact .inr ⟨rfl, word_trans hab hbc⟩

theorem pair_comparable {a b a' b' : Int64} (h : ¬(a = b ∧ a' = b')) :
    (a < b ∨ a = b ∧ a' < b') ∨ b < a ∨ b = a ∧ b' < a' := by
  by_cases hab : a = b
  · have : a' ≠ b' := fun h' => h ⟨hab, h'⟩
    rcases word_comparable this with h' | h' <;> simp [hab, h']
  · rcases word_comparable hab with h' | h' <;> simp [h']

theorem Edge.before_iff {a b : Edge} :
    a.before b ↔ a.target < b.target ∨ a.target = b.target ∧ a.source < b.source := by
  simp [Edge.before]

theorem Member.before_iff {a b : Member} :
    a.before b ↔ a.budget < b.budget ∨ a.budget = b.budget ∧ a.user < b.user := by
  simp [Member.before]

/-! ## The store -/

/-! Where there is no row, the rows are in order. -/

theorem noBudgets_byId : ([] : List Budget).Pairwise (·.id < ·.id) := .nil

theorem noEntries_byId : ([] : List Entry).Pairwise (·.id < ·.id) := .nil

theorem noEntries_le : ∀ e ∈ ([] : List Entry), e.id ≤ 0 := fun _ none => nomatch none

theorem noEdges_byKey : ([] : List Edge).Pairwise (·.before ·) := .nil

theorem noMembers_byKey : ([] : List Member).Pairwise (·.before ·) := .nil

structure Store where
  budgets : List Budget := []
  entries : List Entry := []
  edges : List Edge := []
  members : List Member := []
  /-- Budgets whose ledger takes no entry at present. -/
  rejecting : List BudgetId := []
  lastBudget : BudgetId := 0
  lastEntry : Int64 := 0
  budgets_byId : budgets.Pairwise (·.id < ·.id) := by exact noBudgets_byId
  entries_byId : entries.Pairwise (·.id < ·.id) := by exact noEntries_byId
  entries_le : ∀ e ∈ entries, e.id ≤ lastEntry := by exact noEntries_le
  edges_byKey : edges.Pairwise (·.before ·) := by exact noEdges_byKey
  members_byKey : members.Pairwise (·.before ·) := by exact noMembers_byKey
deriving DecidableEq, Repr

namespace Store

/-- A statement on the store. -/
abbrev Statement (α : Type) := Store → Except DbError (α × Store)

/-! ## Refusals -/

def foreignKeyFailed : DbError := .refused 787 "FOREIGN KEY constraint failed"

def uniqueFailed (columns : String) : DbError :=
  .refused 1555 ("UNIQUE constraint failed: " ++ columns)

/-- There is no id past the largest 64-bit number. -/
def idsExhausted : DbError := .refused 13 "database or disk is full"

def entryRejected : DbError := .refused 1811 "ledger entry rejected"

/-- The name of the rule that rejects the entries of a budget. -/
def rejectionName (budget : BudgetId) : String := "reject_budget_" ++ wordText budget

def sumOverflow : DbError := .query (.driver (.refused 1 "integer overflow"))

/-! ## Looking up -/

def budget? (s : Store) (id : BudgetId) : Option Budget := s.budgets.find? (·.id = id)

def hasBudget (s : Store) (id : BudgetId) : Bool := (s.budget? id).isSome

def entriesOf (s : Store) (id : BudgetId) : List Entry := s.entries.filter (·.budget = id)

/-- The edges by which `target` draws on others, by source id. -/
def sourcesOf (s : Store) (target : BudgetId) : List Edge := s.edges.filter (·.target = target)

def isMember (s : Store) (budget : BudgetId) (user : UserId) : Bool :=
  s.members.contains ⟨budget, user⟩

/-- Credits less debits, added up in the order of the entries; refused as soon as a partial sum
leaves the 64-bit range. A debit of the least amount would be refused alike, where the store
answers with a rounded number; but amounts are checked to be positive before they are written. -/
def balance (s : Store) (id : BudgetId) : Except DbError Money :=
  match (s.entriesOf id).foldlM (fun total e => Money.ofInt? (total.toInt + e.signedCents))
      Money.zero with
  | some total => .ok total
  | none => .error sumOverflow

/-- Payroll is due and the marker, as stored text, lies before that of the start of the month. -/
def isEligible (monthStart : Instant) (b : Budget) : Bool :=
  b.payroll.isPositive &&
    match b.runAt with
    | none => true
    | some runAt => runAt.storedText < monthStart.storedText

def eligible (s : Store) (monthStart : Instant) : List Budget :=
  s.budgets.filter (isEligible monthStart)

/-! ## Statements -/

/-- The id after the largest one ever given out. -/
def nextId (last : Int64) : Except DbError { id : Int64 // last < id } :=
  if h : last < Int64.maxValue then .ok ⟨last + 1, by
    have greatest : Int64.maxValue.toInt = 9223372036854775807 := rfl
    have lower := last.le_toInt
    rw [Int64.lt_iff_toInt_lt] at h ⊢
    rw [Int64.toInt_add, show (1 : Int64).toInt = 1 from rfl,
      Int.bmod_eq_of_le (by omega) (by omega)]
    omega⟩
  else .error idsExhausted

theorem not_hasBudget {s : Store} {id : BudgetId} (h : ¬s.hasBudget id) :
    ∀ b ∈ s.budgets, b.id ≠ id := by
  simpa [hasBudget, budget?] using h

theorem budgets_byId_insertBy {bs : List Budget} (h : bs.Pairwise (·.id < ·.id)) {x : Budget}
    (new : ∀ b ∈ bs, b.id ≠ x.id) : (insertBy (·.id < ·.id) x bs).Pairwise (·.id < ·.id) := by
  refine (pairwise_insertBy ?_ (h.imp fun hab => decide_eq_true hab) fun b hb => ?_).imp
    fun hab => of_decide_eq_true hab
  · simpa using fun _ _ _ => word_trans
  · simpa using (word_comparable (new b hb)).symm

/-- Adds a budget, with the given id or else a new one. -/
def insertBudget (id? : Option BudgetId) (make : BudgetId → Budget) : Statement BudgetId :=
  fun s => do
    let id ← match id? with
      | some id => pure id
      | none => (nextId s.lastBudget).map (·.1)
    if h : s.hasBudget id then .error (uniqueFailed "budgets.id")
    else .ok (id, { s with
      budgets := insertBy (·.id < ·.id) { make id with id } s.budgets
      lastBudget := if s.lastBudget < id then id else s.lastBudget
      budgets_byId := budgets_byId_insertBy s.budgets_byId (not_hasBudget h) })

/-- Adds an entry at the end of the ledger. -/
def insertEntry (budget : BudgetId) (make : Int64 → Entry) : Statement Entry := fun s =>
  if s.rejecting.contains budget then .error entryRejected
  else
    match nextId s.lastEntry with
    | .error cause => .error cause
    | .ok ⟨id, last_lt⟩ =>
      let e := { make id with id }
      if s.hasBudget budget then
        .ok (e, { s with
          entries := s.entries ++ [e]
          lastEntry := id
          entries_byId := by
            refine List.pairwise_append.2 ⟨s.entries_byId, by simp, fun a ha b hb => ?_⟩
            have := s.entries_le a ha
            rw [List.mem_singleton.1 hb]
            rw [Int64.lt_iff_toInt_lt, Int64.le_iff_toInt_le] at *
            exact Int.lt_of_le_of_lt this last_lt
          entries_le := by
            intro a ha
            rcases List.mem_append.1 ha with ha | ha
            · have := s.entries_le a ha
              rw [Int64.lt_iff_toInt_lt, Int64.le_iff_toInt_le] at *
              omega
            · simp [List.mem_singleton.1 ha, e] })
      else .error foreignKeyFailed

def insertEdge (e : Edge) : Statement Unit := fun s =>
  if h : s.edges.any fun other => other.target = e.target && other.source = e.source then
    .error (uniqueFailed
      "budget_auto_balance_sources.budget_id, budget_auto_balance_sources.source_budget_id")
  else if s.hasBudget e.target && s.hasBudget e.source then
    .ok ((), { s with
      edges := insertBy Edge.before e s.edges
      edges_byKey := pairwise_insertBy
        (fun _ _ _ hab hbc => by
          rw [Edge.before_iff] at *
          exact pair_trans hab hbc)
        s.edges_byKey fun other ho => by
          rw [Edge.before_iff, Edge.before_iff, or_comm]
          have : ∀ other ∈ s.edges, other.target = e.target → ¬other.source = e.source := by
            simpa using h
          exact pair_comparable fun same => this other ho same.1 same.2 })
  else .error foreignKeyFailed

/-- Adds the edges one after the other; one that is refused undoes those before it. -/
def insertEdges : List Edge → Statement Unit
  | [] => fun s => .ok ((), s)
  | e :: es => fun s =>
    match insertEdge e s with
    | .ok ((), s) => insertEdges es s
    | .error cause => .error cause

def insertMember (m : Member) : Statement Unit := fun s =>
  if h : s.members.contains m then
    .error (uniqueFailed "budget_members.budget_id, budget_members.user_id")
  else if s.hasBudget m.budget then
    .ok ((), { s with
      members := insertBy Member.before m s.members
      members_byKey := pairwise_insertBy
        (fun _ _ _ hab hbc => by
          rw [Member.before_iff] at *
          exact pair_trans hab hbc)
        s.members_byKey fun other ho => by
          rw [Member.before_iff, Member.before_iff, or_comm]
          refine pair_comparable fun same => h ?_
          have : other = m := by
            cases other
            cases m
            simp_all
          simpa [this] using ho })
  else .error foreignKeyFailed

/-- Changes the rows of a budget, whose id stays, and counts them. -/
def updateBudget (id : BudgetId) (change : Budget → Budget) : Statement Nat := fun s =>
  .ok ((s.budgets.filter (·.id = id)).length, { s with
    budgets := s.budgets.map fun b => if b.id = id then { change b with id := b.id } else b
    budgets_byId := by
      refine List.pairwise_map.2 (s.budgets_byId.imp fun {a b} hab => ?_)
      split <;> split <;> exact hab })

/-- A record other than the budget itself refers to it. -/
def isReferenced (s : Store) (id : BudgetId) : Bool :=
  s.entries.any (·.budget = id) || s.edges.any (fun e => e.target = id || e.source = id) ||
    s.members.any (·.budget = id)

def deleteBudget (id : BudgetId) : Statement Nat := fun s =>
  if s.hasBudget id && s.isReferenced id then .error foreignKeyFailed
  else .ok ((s.budgets.filter (·.id = id)).length,
    { s with
      budgets := s.budgets.filter (·.id ≠ id)
      budgets_byId := s.budgets_byId.filter _ })

def deleteEntry (id : Int64) : Statement Nat := fun s =>
  .ok ((s.entries.filter (·.id = id)).length,
    { s with
      entries := s.entries.filter (·.id ≠ id)
      entries_byId := s.entries_byId.filter _
      entries_le := fun e he => s.entries_le e (List.mem_filter.1 he).1 })

def deleteMember (m : Member) : Statement Nat := fun s =>
  .ok ((s.members.filter (· = m)).length, { s with
    members := s.members.filter (· ≠ m)
    members_byKey := s.members_byKey.filter _ })

/-- Deletes the edges by which `target` draws on others. -/
def deleteSourcesOf (target : BudgetId) : Statement Nat := fun s =>
  .ok ((s.sourcesOf target).length, { s with
    edges := s.edges.filter (·.target ≠ target)
    edges_byKey := s.edges_byKey.filter _ })

/-- From now on every entry for the budget is refused. -/
def startRejecting (budget : BudgetId) : Statement Unit := fun s =>
  if s.rejecting.contains budget then
    .error (.refused 1 ("trigger " ++ rejectionName budget ++ " already exists"))
  else .ok ((), { s with rejecting := budget :: s.rejecting })

def stopRejecting (budget : BudgetId) : Statement Unit := fun s =>
  if s.rejecting.contains budget then
    .ok ((), { s with rejecting := s.rejecting.filter (· ≠ budget) })
  else .error (.refused 1 ("no such trigger: " ++ rejectionName budget))

end Store

end Paymaster
