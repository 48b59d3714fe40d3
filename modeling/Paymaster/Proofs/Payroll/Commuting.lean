import Paymaster.Proofs.Payroll.Conservation
import Paymaster.Proofs.Payroll.Footprint

/-
  Payments of unrelated budgets commute.
  Model (read this before the theorems). Two payments for different budgets are made one after the
  other, in one order or the other (`inTurn`). Neither budget draws on the other with weight; they
  may draw on the same sources. Times, actors and flags are any, and each payment may fail or find
  nothing to pay.

  The payment that comes first touches nothing that the other looks at (`sameFor_of_touches`). So
  each comes to the same in both orders, and the books are the same in the end
  (`payments_commute`). Ids are given out in the order of the writing and so are not among what is
  the same. They are also why there is an exception: where the ids run out, it is the payment that
  comes second that fails (`payments_conflict_lastId`).
-/

namespace Paymaster

/-- An entry but for its id. -/
def Entry.unnumbered (e : Entry) : Entry := { e with id := 0 }

/-- The same rows, edges and members, the same balances, and the same entries but for their ids and
their order. -/
structure SameBooks (s t : Store) : Prop where
  budgets : t.budgets = s.budgets
  edges : t.edges = s.edges
  members : t.members = s.members
  balances : ∀ id, t.exactBalance id = s.exactBalance id
  entries : (t.entries.map Entry.unnumbered).Perm (s.entries.map Entry.unnumbered)

/-- Stamps of different budgets may be set in any order. -/
theorem Budget.stampAll_comm {ps qs : List (BudgetId × Instant)}
    (apart : ∀ x ∈ ps, ∀ y ∈ qs, x.1 ≠ y.1) (b : Budget) :
    (b.stampAll ps).stampAll qs = (b.stampAll qs).stampAll ps := by
  by_cases here : ∃ x ∈ ps, x.1 = b.id
  · obtain ⟨x, hx, here⟩ := here
    have others : ∀ y ∈ qs, y.1 ≠ b.id := fun y hy there => apart x hx y hy (here.trans there.symm)
    rw [stampAll_of_forall_ne others, stampAll_of_forall_ne (by simpa using others)]
  · have others : ∀ x ∈ ps, x.1 ≠ b.id := fun x hx there => here ⟨x, hx, there⟩
    have others' : ∀ x ∈ ps, x.1 ≠ (b.stampAll qs).id := by simpa using others
    rw [stampAll_of_forall_ne others, stampAll_of_forall_ne others']

namespace Payroll

open Ledger LedgerM

/-- What two payments count, the one that comes first and the other, and the database that they
leave. -/
structure InTurn where
  first : Except Failure Nat
  second : Except Failure Nat
  after : Database

def inTurn (p q : Payment) (db : Database) : InTurn :=
  let (first, db) := p.run.run db
  let (second, db) := q.run.run db
  ⟨first, second, db⟩

/-! ## What is written in two orders -/

theorem unnumbered_records (now : Instant) (last : Int64) (news : List NewEntry) :
    (NewEntry.records now last news).map Entry.unnumbered = news.map (·.record now 0) := by
  induction news generalizing last with
  | nil => rfl
  | cons e news ih =>
    rw [NewEntry.records, List.map_cons, ih]
    rfl

theorem unnumbered_of_wrote {now : Instant} {news : List NewEntry}
    {stamps : List (BudgetId × Instant)} {s t : Store} (h : Wrote now news stamps s t) :
    t.entries.map Entry.unnumbered =
      s.entries.map Entry.unnumbered ++ news.map (·.record now 0) := by
  rw [h.entries, List.map_append, unnumbered_records]

/-- The order in which two lists of entries and stamps are written leaves no trace in the books, if
the stamps are on different budgets. -/
theorem sameBooks_of_wrote {now now' : Instant} {news news' : List NewEntry}
    {stamps stamps' : List (BudgetId × Instant)} {s t u t' u' : Store}
    (one : Wrote now news stamps s t) (two : Wrote now' news' stamps' t u)
    (two' : Wrote now' news' stamps' s t') (one' : Wrote now news stamps t' u')
    (apart : ∀ x ∈ stamps, ∀ y ∈ stamps', x.1 ≠ y.1) : SameBooks u u' where
  budgets := by
    rw [one'.budgets, two'.budgets, two.budgets, one.budgets, List.map_map, List.map_map]
    exact List.map_congr_left fun b _ => (Budget.stampAll_comm apart b).symm
  edges := by rw [one'.edges, two'.edges, two.edges, one.edges]
  members := by rw [one'.members, two'.members, two.members, one.members]
  balances id := by
    rw [exactBalance_of_wrote one', exactBalance_of_wrote two', exactBalance_of_wrote two,
      exactBalance_of_wrote one]
    exact Int.add_right_comm _ _ _
  entries := by
    rw [unnumbered_of_wrote one', unnumbered_of_wrote two', unnumbered_of_wrote two,
      unnumbered_of_wrote one, List.append_assoc, List.append_assoc]
    exact List.perm_append_comm.append_left _

/-! ## Two payments -/

/-- To a budget that a payment does not touch, the store looks as before. -/
theorem sameFor_of_touches {p : Payment} {outcome : Except Failure (List Application)} {s t : Store}
    {id : BudgetId} (touches : p.Touches outcome s t) (other : p.budget ≠ id)
    (apart : ¬s.DrawsOn p.budget id) : SameFor id s t := by
  have wrote := touches.wrote
  have elsewhere : (NewEntry.records p.now s.lastEntry (p.news outcome)).filter (·.budget = id) =
      [] := by
    refine List.filter_eq_nil_iff.2 fun e he here => ?_
    obtain ⟨n, hn, i, rfl⟩ := NewEntry.mem_records he
    have here : n.budget = id := of_decide_eq_true here
    rcases touches.entries n hn with own | source
    · exact other (own.symm.trans here)
    · exact apart (here ▸ source)
  have entries : t.entriesOf id = s.entriesOf id := by
    rw [Store.entriesOf, wrote.entries, List.filter_append, elsewhere, List.append_nil]
    rfl
  exact {
    edges := wrote.edges
    members := wrote.members
    rejecting := wrote.rejecting
    hasBudget := wrote.hasBudget
    lastEntry := touches.ids
    row := by
      rw [wrote.budget?]
      rcases row : s.budget? id with _ | b
      · rfl
      · rw [Option.map_some, Budget.stampAll_of_forall_ne]
        intro x hx there
        rw [touches.rows x hx, (Store.budget?_eq_some_iff.1 row).2] at there
        exact other there
    balance := by rw [Store.balance, entries, Store.balance] }

theorem inTurn_eq (p q : Payment) (s : Session) :
    ∃ t : Session, inTurn p q (.live s) =
        ⟨(p.settle s.store).1.map List.length,
          (q.settle (p.settle s.store).2).1.map List.length, .live t⟩ ∧
      t.store = (q.settle (p.settle s.store).2).2 := by
  obtain ⟨t, ran, there⟩ := p.run_eq_settle s
  obtain ⟨u, ran', there'⟩ := q.run_eq_settle t
  refine ⟨u, ?_, by rw [there', there]⟩
  rw [inTurn, ran]
  dsimp only
  rw [ran', there]

/-- Payments for two budgets of which neither draws on the other count the same in both orders and
come to the same books, unless the one that comes second finds no id left for its entries. -/
theorem payments_commute {p q : Payment} (differ : p.budget ≠ q.budget) (s : Session)
    (apart : ¬s.store.DrawsOn p.budget q.budget) (apart' : ¬s.store.DrawsOn q.budget p.budget) :
    let pq := inTurn p q (.live s)
    let qp := inTurn q p (.live s)
    (qp.second = pq.first ∧ qp.first = pq.second ∧ OnStores SameBooks pq.after qp.after) ∨
      pq.second = .error outOfIds ∨ qp.second = .error outOfIds := by
  obtain ⟨t, pq, there⟩ := inTurn_eq p q s
  obtain ⟨t', qp, there'⟩ := inTurn_eq q p s
  rw [pq, qp]
  dsimp only
  -- what comes first runs on the store as it is, so only what comes second needs to be compared
  have first := p.touches_settle s.store
  have first' := q.touches_settle s.store
  rcases q.settle_congr (sameFor_of_touches first differ apart) with out | second
  · rw [out]
    exact .inr (.inl rfl)
  rcases p.settle_congr (sameFor_of_touches first' differ.symm apart') with out | second'
  · rw [out]
    exact .inr (.inr rfl)
  refine .inl ⟨by rw [second'], by rw [second], .live ?_⟩
  have wrote := (q.touches_settle (p.settle s.store).2).wrote
  have wrote' := (p.touches_settle (q.settle s.store).2).wrote
  rw [second] at wrote
  rw [second'] at wrote'
  rw [there, there']
  refine sameBooks_of_wrote first.wrote wrote first'.wrote wrote' fun x hx y hy => ?_
  rw [first.rows x hx, first'.rows y hy]
  exact differ

/-- Two budgets in debt that draw on a third one. -/
def sharing : Store where
  budgets := [⟨1, "rent", ⟨100⟩, none, true, Instant.first, Instant.first⟩,
    ⟨2, "food", ⟨50⟩, none, true, Instant.first, Instant.first⟩,
    ⟨3, "rest", ⟨0⟩, none, false, Instant.first, Instant.first⟩]
  entries := [⟨1, 1, none, "", .debit, ⟨30⟩, Instant.first, Instant.first⟩,
    ⟨2, 2, none, "", .debit, ⟨7⟩, Instant.first, Instant.first⟩]
  edges := [⟨1, 3, 1⟩, ⟨2, 1, 0⟩, ⟨2, 3, 5⟩]
  lastBudget := 3
  lastEntry := 2
  budgets_byId := by decide
  entries_byId := by decide
  entries_le := by decide
  edges_byKey := by decide

def rentInMarch : Payment := ⟨1, none, .utc, noon, false⟩

def foodInMay : Payment := ⟨2, none, .utc, { seconds := 1715774400, nanos := 0 }, true⟩

/-- Both are paid, in either order, and the third one covers both deficits. -/
theorem payments_commute_sharing :
    let pq := inTurn rentInMarch foodInMay (.live { store := sharing })
    let qp := inTurn foodInMay rentInMarch (.live { store := sharing })
    pq.first = .ok 1 ∧ pq.second = .ok 1 ∧ qp.first = .ok 1 ∧ qp.second = .ok 1 ∧
      OnStores SameBooks pq.after qp.after := by
  intro pq qp
  have paid : pq.first = .ok 1 ∧ pq.second = .ok 1 := by decide +kernel
  have paid' : qp.first = .ok 1 ∧ qp.second = .ok 1 := by decide +kernel
  have same := payments_commute (p := rentInMarch) (q := foodInMay) (by decide)
    { store := sharing } (by decide) (by decide)
  rcases same with ⟨-, -, same⟩ | out | out
  · exact ⟨paid.1, paid.2, paid'.1, paid'.2, same⟩
  · rw [show (inTurn rentInMarch foodInMay _).second = _ from paid.2] at out
    cases out
  · rw [show (inTurn foodInMay rentInMarch _).second = _ from paid'.2] at out
    cases out

/-- The same budgets without debts, where one id is left for entries. -/
def lastId : Store :=
  { sharing with
    entries := []
    edges := []
    lastEntry := Int64.maxValue - 1
    entries_byId := noEntries_byId
    entries_le := fun _ none => nomatch none
    edges_byKey := noEdges_byKey }

/-- There the payment that comes first takes the id, and the other one fails, so that each comes to
something else in the other order. -/
theorem payments_conflict_lastId :
    let pq := inTurn rentInMarch foodInMay (.live { store := lastId })
    let qp := inTurn foodInMay rentInMarch (.live { store := lastId })
    rentInMarch.budget ≠ foodInMay.budget ∧
      ¬lastId.DrawsOn rentInMarch.budget foodInMay.budget ∧
      ¬lastId.DrawsOn foodInMay.budget rentInMarch.budget ∧
      pq.first = .ok 1 ∧ qp.second = .error outOfIds ∧
      qp.first = .ok 1 ∧ pq.second = .error outOfIds := by
  decide +kernel

end Payroll

end Paymaster
