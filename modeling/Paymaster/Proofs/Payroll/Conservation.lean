import Paymaster.Proofs.Ledger.Rows
import Paymaster.Proofs.Payroll.Runs

/-
  Runs of payroll and the money in the ledger.
  Balances are exact integers here: credits less debits, added up without bounds. A transfer moves
  money and makes none, since its total is what its sources gave; so the whole ledger gains the
  payroll that a run credits, and each budget its own payroll and what it received, less what it
  gave (`run_conserves`). Which budgets draw on which does not matter.
-/

namespace Paymaster

/-- The sum of all signed amounts. -/
def Store.exactTotal (s : Store) : Int := (s.entries.map Entry.signedCents).sum

/-- The sum of the signed amounts of one budget. -/
def Store.exactBalance (s : Store) (id : BudgetId) : Int :=
  ((s.entriesOf id).map Entry.signedCents).sum

namespace Payroll

open Ledger

/-! ## What a report says about money -/

/-- What the budget received to cover its deficit. -/
def Application.received (a : Application) : Int := (a.transfer.map (·.total.toInt)).getD 0

/-- What the transfer took from a source. -/
def Transfer.takenFrom (t : Transfer) (source : BudgetId) : Int :=
  ((t.debits.filter (·.source = source)).map (·.amount.toInt)).sum

def Application.takenFrom (a : Application) (source : BudgetId) : Int :=
  (a.transfer.map (·.takenFrom source)).getD 0

/-- What a budget received, over a whole report. -/
def receivedBy (report : List Application) (id : BudgetId) : Int :=
  ((report.filter (·.budget = id)).map Application.received).sum

/-- What a budget gave as a source, over a whole report. -/
def takenFrom (report : List Application) (id : BudgetId) : Int :=
  (report.map (·.takenFrom id)).sum

/-- From `s` to `t` the money in the ledger changed by what the report says. -/
structure Conserves (report : List Application) (s t : Store) : Prop where
  total : t.exactTotal = s.exactTotal + (report.map (·.payroll.toInt)).sum
  each : ∀ b ∈ s.budgets, t.exactBalance b.id = s.exactBalance b.id +
    (if b.id ∈ report.map (·.budget) then b.payroll.toInt else 0) + receivedBy report b.id -
      takenFrom report b.id

/-! ## Sums over entries -/

/-- The amount of a new entry with its sign. -/
def signed (e : NewEntry) : Int :=
  match e.direction with
  | .credit => e.amount.toInt
  | .debit => -e.amount.toInt

/-- The amount of a new entry with its sign, if it is for the budget `id`. -/
def signedFor (id : BudgetId) (e : NewEntry) : Int := if e.budget = id then signed e else 0

theorem sum_filter {α : Type} (p : α → Bool) (f : α → Int) (xs : List α) :
    ((xs.filter p).map f).sum = (xs.map fun x => if p x then f x else 0).sum := by
  induction xs with
  | nil => rfl
  | cons x xs ih =>
    by_cases hx : p x
    · simp [hx, ih]
    · simp [hx, ih]

theorem sum_records {f : Entry → Int} {g : NewEntry → Int}
    (same : ∀ (e : NewEntry) now id, f (e.record now id) = g e) (now : Instant) (last : Int64)
    (news : List NewEntry) : ((NewEntry.records now last news).map f).sum = (news.map g).sum := by
  induction news generalizing last with
  | nil => rfl
  | cons e news ih => simp [NewEntry.records, same, ih]

section
variable {now : Instant} {news : List NewEntry} {stamps : List (BudgetId × Instant)} {s t : Store}

theorem exactTotal_of_wrote (h : Wrote now news stamps s t) :
    t.exactTotal = s.exactTotal + (news.map signed).sum := by
  have same : ∀ (e : NewEntry) now id, (e.record now id).signedCents = signed e := by
    intro e now id
    cases e with | mk b a d direction m => cases direction <;> rfl
  rw [Store.exactTotal, h.entries, List.map_append, List.sum_append_int, sum_records same]
  rfl

theorem exactBalance_eq (s : Store) (id : BudgetId) :
    s.exactBalance id =
      (s.entries.map fun e => if e.budget = id then e.signedCents else 0).sum := by
  simpa [Store.exactBalance, Store.entriesOf] using sum_filter (·.budget = id) _ s.entries

theorem exactBalance_of_wrote (h : Wrote now news stamps s t) (id : BudgetId) :
    t.exactBalance id = s.exactBalance id + (news.map (signedFor id)).sum := by
  have same : ∀ (e : NewEntry) now i,
      (if (e.record now i).budget = id then (e.record now i).signedCents else 0) =
        signedFor id e := by
    intro e now i
    cases e with | mk b a d direction m => cases direction <;> rfl
  rw [exactBalance_eq, h.entries, List.map_append, List.sum_append_int, sum_records same,
    ← exactBalance_eq]

end

theorem sum_flatMap {α : Type} (w : α → List NewEntry) (g : NewEntry → Int) (xs : List α) :
    ((xs.flatMap w).map g).sum = (xs.map fun x => ((w x).map g).sum).sum := by
  induction xs with
  | nil => rfl
  | cons x xs ih => simp [ih]

/-! ## The entries of one application -/

theorem sum_signed_debits (description : String) (debits : List SourceDebit) :
    ((debits.map (·.write description)).map signed).sum =
      -(debits.map (·.amount.toInt)).sum := by
  induction debits with
  | nil => rfl
  | cons d debits ih =>
    rw [List.map_cons, List.map_cons, List.sum_cons, ih, List.map_cons, List.sum_cons,
      show signed (d.write description) = -d.amount.toInt from rfl]
    omega

theorem sum_signedFor_debits (id : BudgetId) (description : String) (debits : List SourceDebit) :
    ((debits.map (·.write description)).map (signedFor id)).sum =
      -((debits.filter (·.source = id)).map (·.amount.toInt)).sum := by
  rw [sum_filter]
  induction debits with
  | nil => rfl
  | cons d debits ih =>
    have first : signedFor id (d.write description) =
        -(if d.source = id then d.amount.toInt else 0) := by
      by_cases here : d.source = id
      · rw [if_pos here]
        exact if_pos here
      · rw [if_neg here]
        exact if_neg here
    simp only [List.map_cons, List.sum_cons, ih, first, decide_eq_true_eq]
    omega

/-- The entries of a transfer cancel out. -/
theorem sum_signed_writes (a : Application) (period : Period)
    (balanced : ∀ t, a.transfer = some t → t.Balanced) :
    ((a.writes period).map signed).sum = a.payroll.toInt := by
  rcases moved : a.transfer with _ | t
  · simp [Application.writes, moved, signed, NewEntry.system]
  · have cancels := balanced t moved
    have debits := sum_signed_debits (transferDescription a.name) t.debits
    simp only [Transfer.Balanced] at cancels
    simp only [Application.writes, moved, Option.map_some, Option.getD_some, Transfer.writes,
      List.map_append, List.sum_append_int, debits]
    simp only [List.map_cons, List.map_nil, List.sum_cons, List.sum_nil, signed, NewEntry.system]
    omega

theorem sum_signedFor_writes (a : Application) (period : Period) (id : BudgetId) :
    ((a.writes period).map (signedFor id)).sum =
      (if a.budget = id then a.payroll.toInt else 0) +
        (if a.budget = id then a.received else 0) - a.takenFrom id := by
  have payroll : signedFor id (.system a.budget period.description .credit a.payroll) =
      if a.budget = id then a.payroll.toInt else 0 := rfl
  rcases moved : a.transfer with _ | t
  · simp [Application.writes, moved, payroll, Application.received, Application.takenFrom]
  · have debits := sum_signedFor_debits id (transferDescription a.name) t.debits
    have credit : signedFor id (.system a.budget (transferDescription a.name) .credit t.total) =
        if a.budget = id then t.total.toInt else 0 := rfl
    simp only [Application.writes, moved, Option.map_some, Option.getD_some, Transfer.writes,
      List.map_append, List.sum_append_int, debits, Application.received, Application.takenFrom,
      Transfer.takenFrom]
    simp only [List.map_cons, List.map_nil, List.sum_cons, List.sum_nil, payroll, credit]
    omega

/-! ## Whole runs -/

variable {period : Period} {due : List Budget} {report : List Application} {s t : Store}

/-- Of rows with different ids, those with the id of `b` are `b`. -/
theorem sum_payroll {bs : List Budget} (rows : bs.Sublist s.budgets) {b : Budget}
    (hb : b ∈ s.budgets) :
    (bs.map fun x => if x.id = b.id then x.payroll.toInt else 0).sum =
      if b.id ∈ bs.map (·.id) then b.payroll.toInt else 0 := by
  have ascending := s.budgets_byId.sublist rows
  have row : ∀ x ∈ bs, x.id = b.id → x = b := fun x hx same =>
    Store.eq_of_mem_budgets (rows.subset hx) hb same
  clear rows
  induction bs with
  | nil => rfl
  | cons x bs ih =>
    obtain ⟨after, ascending⟩ := List.pairwise_cons.1 ascending
    have rest := ih ascending fun y hy => row y (List.mem_cons_of_mem x hy)
    by_cases here : x.id = b.id
    · obtain rfl := row x List.mem_cons_self here
      have absent : x.id ∉ bs.map (·.id) := fun again => by
        obtain ⟨y, hy, same⟩ := List.mem_map.1 again
        have := after y hy
        simp [same] at this
      simp [rest, absent]
    · simp [here, rest, Ne.symm here]

theorem Settles.sum_payroll (h : Settles period due report s t) (id : BudgetId) :
    (report.map fun a => if a.budget = id then a.payroll.toInt else 0).sum =
      (due.map fun b => if b.id = id then b.payroll.toInt else 0).sum := by
  have := h.paid
  clear h
  induction this with
  | nil => rfl
  | cons paid _ ih => simp [paid.budget, paid.payroll, ih]

theorem sum_add_sub {α : Type} (f g h : α → Int) (xs : List α) :
    (xs.map fun x => f x + g x - h x).sum =
      (xs.map f).sum + (xs.map g).sum - (xs.map h).sum := by
  induction xs with
  | nil => rfl
  | cons x xs ih =>
    simp only [List.map_cons, List.sum_cons, ih]
    omega

theorem Settles.conserves (h : Settles period due report s t) (rows : due.Sublist s.budgets) :
    Conserves report s t where
  total := by
    have writes : report.map (fun a => ((a.writes period).map signed).sum) =
        report.map (·.payroll.toInt) := by
      refine List.map_congr_left fun a ha => ?_
      obtain ⟨_, _, paid⟩ := h.exists_paid ha
      exact sum_signed_writes a period paid.balanced
    rw [exactTotal_of_wrote h.wrote, sum_flatMap, writes]
  each b hb := by
    have received : receivedBy report b.id =
        (report.map fun a => if a.budget = b.id then a.received else 0).sum := by
      simpa [receivedBy] using sum_filter (·.budget = b.id) Application.received report
    rw [exactBalance_of_wrote h.wrote, sum_flatMap, received, takenFrom]
    simp only [sum_signedFor_writes]
    rw [sum_add_sub, h.sum_payroll, Payroll.sum_payroll rows hb, h.budgets]
    omega

/-- A run that succeeds credits the payroll that it reports and moves the rest: the ledger as a
whole gains the payroll credited, and each budget its own payroll if it was paid and what it
received, less what it gave. -/
theorem run_conserves {z : Zone} {now : Instant} {r : Run} {db db' : Database} {n : Nat}
    (h : (r.count z now).run db = (.ok n, db')) :
    ∃ s t report, db.store? = some s ∧ db'.store? = some t ∧
      (r.report z now).run db = (.ok report, db') ∧ n = report.length ∧ Conserves report s t := by
  rw [Run.run_count] at h
  rcases ran : (r.report z now).run db with ⟨failure | report, after⟩ <;> rw [ran] at h
  · cases h
  · cases h
    obtain ⟨s, period, t, rfl, -, rfl, settles⟩ := Run.report_ok ran
    exact ⟨s.store, t, report, rfl, rfl, rfl, rfl,
      settles.conserves (Run.due_sublist period s.store r)⟩

def noon : Instant := { seconds := 1710504000, nanos := 0 }

/-- Two budgets in debt that draw on each other. -/
def ring : Store where
  budgets := [⟨1, "rent", ⟨100⟩, none, true, noon, noon⟩, ⟨2, "food", ⟨50⟩, none, true, noon, noon⟩]
  entries := [⟨1, 1, none, "", .debit, ⟨30⟩, noon, noon⟩, ⟨2, 2, none, "", .debit, ⟨7⟩, noon, noon⟩]
  edges := [⟨1, 2, 1⟩, ⟨2, 1, 5⟩]
  lastBudget := 2
  lastEntry := 2
  budgets_byId := by decide
  entries_byId := by decide
  entries_le := by decide
  edges_byKey := by decide

/-- Each pays the other's deficit, the second one that to which the first transfer has brought it.
The ledger gains the payroll of both, 100 and 50. -/
theorem run_conserves_ring :
    let rent : Application := ⟨1, "rent", ⟨100⟩, some ⟨⟨30⟩, [⟨2, ⟨30⟩⟩], ⟨30⟩⟩, noon⟩
    let food : Application := ⟨2, "food", ⟨50⟩, some ⟨⟨37⟩, [⟨1, ⟨37⟩⟩], ⟨37⟩⟩, noon⟩
    ∃ db' t, (Run.monthly.count .utc noon).run (.live { store := ring }) = (.ok 2, db') ∧
      (Run.monthly.report .utc noon).run (.live { store := ring }) = (.ok [rent, food], db') ∧
      db'.store? = some t ∧ t.exactTotal = ring.exactTotal + (100 + 50) ∧
      t.exactBalance 1 = ring.exactBalance 1 + 100 + 30 - 37 ∧
      t.exactBalance 2 = ring.exactBalance 2 + 50 + 37 - 30 := by
  intro rent food
  have paid : ((Run.monthly.count .utc noon).run (.live { store := ring })).1 = .ok 2 := by
    decide +kernel
  rcases ran : (Run.monthly.count .utc noon).run (.live { store := ring }) with ⟨_, db'⟩
  rw [ran] at paid
  cases paid
  obtain ⟨s, t, report, before, after, reported, -, conserves⟩ := run_conserves ran
  obtain rfl : ring = s := Option.some.inj before
  have listed : ((Run.monthly.report .utc noon).run (.live { store := ring })).1 =
      .ok [rent, food] := by decide +kernel
  rw [reported] at listed
  cases listed
  have first := conserves.each _ List.mem_cons_self
  have second := conserves.each _ (List.mem_cons_of_mem _ (List.mem_singleton_self _))
  exact ⟨db', t, rfl, reported, after, conserves.total, first.trans (by decide),
    second.trans (by decide)⟩

end Payroll

end Paymaster
