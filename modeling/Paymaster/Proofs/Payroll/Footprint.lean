import Paymaster.Proofs.Payroll.SideBySide

/-
  What paying one budget looks at, and what it touches.
  Model (read this before the theorems). A payment is a run for one budget (`Payment`), and as far
  as its answer and the store go it is a function of the store (`Payment.settle`).

  It writes entries for the budget itself and for the sources that it draws on with weight, and
  marks no other budget (`touches_settle`). It looks at the row and the balance of the budget, and
  otherwise only at what no payment changes: the edges, the members, and which budgets exist and
  take entries. So on two stores that agree in this, run side by side, it answers the same
  (`settle_congr`), unless no id is left for one of its entries; ids go up with every payment.
-/

namespace Paymaster

/-- `target` draws on `source` with weight. -/
def Store.DrawsOn (s : Store) (target source : BudgetId) : Prop :=
  ∃ e ∈ s.edges, e.target = target ∧ e.source = source ∧ 0 < e.weight.toInt

instance (s : Store) (target source : BudgetId) : Decidable (s.DrawsOn target source) :=
  inferInstanceAs (Decidable (∃ e ∈ s.edges, _))

namespace Payroll

open Ledger LedgerM

/-! ## Stores that allow the same -/

/-- What no payment changes is the same, and the second store has given out no fewer ids. -/
structure Alike (s s' : Store) : Prop where
  edges : s'.edges = s.edges
  members : s'.members = s.members
  rejecting : s'.rejecting = s.rejecting
  hasBudget : ∀ id, s'.hasBudget id = s.hasBudget id
  lastEntry : s.lastEntry ≤ s'.lastEntry

/-- On the second store the operation answers as on the first, or finds no id left. -/
def Agrees {α : Type} (m : LedgerM α) (s s' : Store) : Prop :=
  (m.onStore s').1 = .error outOfIds ∨
    (m.onStore s').1 = (m.onStore s).1 ∧ Alike (m.onStore s).2 (m.onStore s').2

section
variable {s s' : Store}

theorem succ_le_succ {last last' : Int64} (le : last ≤ last') (room : last' < last' + 1) :
    last + 1 ≤ last' + 1 := by
  have lower := last.le_toInt
  have lower' := last'.le_toInt
  have upper' := last'.toInt_le
  have greatest : Int64.maxValue.toInt = 9223372036854775807 := rfl
  have one : (1 : Int64).toInt = 1 := rfl
  have below : last'.toInt < Int64.maxValue.toInt := by
    refine lt_of_le_of_ne upper' fun full => ?_
    obtain rfl : last' = Int64.maxValue := Int64.toInt_inj.1 full
    exact absurd room (by decide)
  rw [Int64.le_iff_toInt_le] at *
  rw [Int64.toInt_add, Int64.toInt_add, one, Int.bmod_eq_of_le (by omega) (by omega),
    Int.bmod_eq_of_le (by omega) (by omega)]
  omega

/-- Alike stores refuse an entry for the same reason, unless the second has no id left. -/
theorem refusal_cases (alike : Alike s s') (e : NewEntry) :
    refusal e s' = some outOfIds ∨ refusal e s' = refusal e s := by
  unfold refusal
  rw [alike.rejecting, alike.hasBudget]
  split
  · exact .inr rfl
  split
  · exact .inr rfl
  by_cases room : s'.lastEntry < Int64.maxValue
  · have room' : s.lastEntry < Int64.maxValue := by
      have le := alike.lastEntry
      rw [Int64.lt_iff_toInt_lt] at *
      rw [Int64.le_iff_toInt_le] at le
      omega
    rw [if_neg (not_not_intro room), if_neg (not_not_intro room')]
    exact .inr rfl
  · rw [if_pos room]
    exact .inl rfl

/-- Stores stay alike when the same is written to each. -/
theorem Alike.wrote (alike : Alike s s') {now : Instant} {news : List NewEntry}
    {stamps : List (BudgetId × Instant)} {t t' : Store} (one : Wrote now news stamps s t)
    (other : Wrote now news stamps s' t') (ids : t.lastEntry ≤ t'.lastEntry) : Alike t t' where
  edges := by rw [one.edges, other.edges, alike.edges]
  members := by rw [one.members, other.members, alike.members]
  rejecting := by rw [one.rejecting, other.rejecting, alike.rejecting]
  hasBudget id := by rw [one.hasBudget, other.hasBudget, alike.hasBudget]
  lastEntry := ids

/-- Alike stores, of which only the second may lack an id. -/
def alikeStores : Comparison where
  related := Alike
  excuse _ := False
  excuse' failure := failure = outOfIds

theorem carries_alikeStores (id : BudgetId) : alikeStores.Carries id fun _ => True where
  self := trivial
  present alike := alike.hasBudget id
  sources alike := by rw [Store.sourcesOf, alike.edges, Store.sourcesOf]
  drawn _ _ _ := trivial
  refuses alike e _ := by
    rcases refusal_cases alike e with out | same
    · exact .inr (.inl ⟨outOfIds, out, rfl⟩)
    · exact .inr (.inr same)
  posts alike one other later := by
    refine alike.wrote one other ?_
    rw [other.lastEntry] at later
    rw [one.lastEntry, other.lastEntry]
    exact succ_le_succ alike.lastEntry later
  stamps alike one other := by
    refine alike.wrote one other ?_
    rw [one.lastEntry, other.lastEntry]
    exact alike.lastEntry

theorem agrees_of_together {α : Type} {m : LedgerM α} (h : alikeStores.Together m s s') :
    Agrees m s s' := by
  rcases h with ⟨_, -, none⟩ | ⟨_, fails, rfl⟩ | agrees
  · exact none.elim
  · exact .inl fails
  · exact .inr agrees

end

/-! ## Payments -/

/-- A run of payroll for one budget. -/
structure Payment where
  budget : BudgetId
  actor : Option UserId
  zone : Zone
  now : Instant
  force : Bool

namespace Payment

def run (p : Payment) : LedgerM Nat := runBudget p.budget p.actor p.zone p.now p.force

/-- A payment as a function of the store: its report, or why it fails, and the store afterwards. -/
def settle (p : Payment) (s : Store) : Except Failure (List Application) × Store :=
  if s.admits p.budget p.actor then
    match Period.containing p.zone p.now with
    | .ok period =>
      match (payOne p.budget p.force period).onStore s with
      | (.ok report, t) => (.ok report, t)
      | (.error failure, _) => (.error failure, s)
    | .error cause => (.error (.error (.schedule cause)), s)
  else (.error (.error (.budgetNotFound p.budget)), s)

/-- The outcome is that of the work within the transaction, if it comes to it. -/
theorem answer_settle (p : Payment) (s : Store) :
    (p.settle s).1 = if s.admits p.budget p.actor then
        match Period.containing p.zone p.now with
        | .ok period => ((payOne p.budget p.force period).onStore s).1
        | .error cause => .error (.error (.schedule cause))
      else .error (.error (.budgetNotFound p.budget)) := by
  unfold settle
  split
  · rcases Period.containing p.zone p.now with cause | period
    · rfl
    · dsimp only
      rcases (payOne p.budget p.force period).onStore s with ⟨failure | report, t⟩ <;> rfl
  · rfl

/-- In every session a payment comes to this. -/
theorem run_eq_settle (p : Payment) (s : Session) :
    ∃ t : Session, p.run.run (.live s) = ((p.settle s.store).1.map List.length, .live t) ∧
      t.store = (p.settle s.store).2 := by
  rw [run, runBudget, LedgerM.run_bind, budgetReport_eq, LedgerM.run_bind, run_ensureAccess, settle]
  by_cases granted : s.store.admits p.budget p.actor
  · rw [if_pos granted, if_pos granted]
    rcases Period.containing p.zone p.now with cause | period
    · exact ⟨s, rfl, rfl⟩
    · dsimp only
      rw [(confined_payOne p.budget p.force period).run_transaction]
      rcases (payOne p.budget p.force period).onStore s.store with ⟨failure | report, t⟩
      · exact ⟨s.afterUndoing, rfl, rfl⟩
      · exact ⟨{ s with store := t }, rfl, rfl⟩
  · rw [if_neg granted, if_neg granted]
    exact ⟨s, rfl, rfl⟩

/-! ## What a payment touches -/

/-- What a payment of this outcome reports. -/
def reported (outcome : Except Failure (List Application)) : List Application :=
  outcome.toOption.getD []

/-- The entries that a payment of this outcome has written. -/
def news (p : Payment) (outcome : Except Failure (List Application)) : List NewEntry :=
  match Period.containing p.zone p.now with
  | .ok period => (reported outcome).flatMap (·.writes period)
  | .error _ => []

theorem news_ok {p : Payment} {period : Period}
    (found : Period.containing p.zone p.now = .ok period) (report : List Application) :
    p.news (.ok report) = report.flatMap (·.writes period) := by
  unfold news
  rw [found]
  rfl

theorem news_error (p : Payment) (failure : Failure) : p.news (.error failure) = [] := by
  unfold news
  split <;> rfl

/-- The run markers that a payment of this outcome has set. -/
def stamps (outcome : Except Failure (List Application)) : List (BudgetId × Instant) :=
  (reported outcome).map Application.stamp

/-- From `s` to `t` only the budget of the payment and those that it draws on were touched. -/
structure Touches (p : Payment) (outcome : Except Failure (List Application)) (s t : Store) :
    Prop where
  wrote : Wrote p.now (p.news outcome) (stamps outcome) s t
  entries : ∀ n ∈ p.news outcome, n.budget = p.budget ∨ s.DrawsOn p.budget n.budget
  rows : ∀ x ∈ stamps outcome, x.1 = p.budget
  ids : s.lastEntry ≤ t.lastEntry

end Payment

theorem Covers.drawsOn {s : Store} {b : Budget} {x : Transfer} (h : Covers s b x)
    {d : SourceDebit} (hd : d ∈ x.debits) : s.DrawsOn b.id d.source := by
  have part : (d.source, d.amount.toInt) ∈ x.debits.map fun d => (d.source, d.amount.toInt) :=
    List.mem_map.2 ⟨d, hd, rfl⟩
  rw [h.debits, List.mem_filter] at part
  obtain ⟨e, he, source, weight⟩ := exists_edge_of_mem_shares part.1 (of_decide_eq_true part.2)
  obtain ⟨he, target⟩ := List.mem_filter.1 he
  exact ⟨e, he, of_decide_eq_true target, source, weight⟩

theorem allowsWrites_ids : AllowsWrites fun s t => s.lastEntry ≤ t.lastEntry where
  refl s := Int64.le_refl s.lastEntry
  trans := Int64.le_trans
  posts _ _ later := Int64.le_of_lt later
  stamps wrote := by
    rw [wrote.lastEntry]
    exact Int64.le_refl _

namespace Payment

variable {p : Payment} {s s' : Store}

theorem touches_of_payOne {period : Period} {report : List Application} {t : Store}
    (found : Period.containing p.zone p.now = .ok period)
    (h : (payOne p.budget p.force period).onStore s = (.ok report, t)) :
    p.Touches (.ok report) s t := by
  have ids := (follows_payOne allowsWrites_ids p.budget p.force period).2 s
  rw [h] at ids
  obtain ⟨b, application, row, rfl, applied⟩ := payOne_ok h
  obtain ⟨settles, covers⟩ := apply_ok applied
  have here : b.id = p.budget := (Store.budget?_eq_some_iff.1 row).2
  have paid {a : Application} (ha : a ∈ application.toList) : a.budget = p.budget := by
    obtain ⟨c, hc, paid⟩ := settles.exists_paid ha
    rw [paid.budget, List.mem_singleton.1 (List.mem_filter.1 hc).1, here]
  have news := news_ok found application.toList
  refine ⟨?_, fun n hn => ?_, fun x hx => ?_, ids⟩
  · rw [news, ← (containing_ok found).1]
    exact settles.wrote
  · rw [news] at hn
    obtain ⟨a, ha, hn⟩ := List.mem_flatMap.1 hn
    rcases mem_writes_cases hn with ⟨x, d, moved, hd, rfl⟩ | ⟨_, _, rfl⟩
    · have cover := covers a x (Option.mem_toList.1 ha) moved
      exact .inr (here ▸ cover.drawsOn hd)
    · exact .inl (paid ha)
  · obtain ⟨a, ha, rfl⟩ := List.mem_map.1 hx
    exact paid ha

/-- Whatever its outcome, a payment touches only its budget and those that it draws on. -/
theorem touches_settle (p : Payment) (s : Store) : p.Touches (p.settle s).1 s (p.settle s).2 := by
  have untouched (failure : Failure) : p.Touches (.error failure) s s := by
    have nothing := p.news_error failure
    refine ⟨?_, ?_, (fun _ none => nomatch none), Int64.le_refl s.lastEntry⟩
    · rw [nothing]
      exact Wrote.refl p.now s
    · rw [nothing]
      exact fun _ none => nomatch none
  unfold settle
  split
  · rcases found : Period.containing p.zone p.now with cause | period
    · exact untouched _
    · dsimp only
      rcases work : (payOne p.budget p.force period).onStore s with ⟨failure | report, t⟩
      · exact untouched _
      · exact touches_of_payOne found work
  · exact untouched _

/-! ## What a payment looks at -/

end Payment

/-- A payment of the budget `id` finds the same in both stores. -/
structure SameFor (id : BudgetId) (s s' : Store) : Prop extends Alike s s' where
  row : s'.budget? id = s.budget? id
  balance : s'.balance id = s.balance id

namespace Payment

variable {p : Payment} {s s' : Store}

theorem agrees_payOne (same : SameFor p.budget s s') (period : Period) :
    Agrees (payOne p.budget p.force period) s s' :=
  agrees_of_together (together_payOne (carries_alikeStores p.budget) same.toAlike
    (congrArg _ same.row) same.balance p.force period)

/-- A payment that finds the same comes to the same, or finds no id left. -/
theorem settle_congr (same : SameFor p.budget s s') :
    (p.settle s').1 = .error outOfIds ∨ (p.settle s').1 = (p.settle s).1 := by
  rw [answer_settle, answer_settle, Store.admits_congr same.members]
  split
  · rcases Period.containing p.zone p.now with cause | period
    · exact .inr rfl
    · exact (agrees_payOne same period).imp_right And.left
  · exact .inr rfl

end Payment

end Payroll

end Paymaster
