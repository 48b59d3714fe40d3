import Paymaster.Proofs.Payroll.Journal
import Paymaster.Proofs.Calendar.MonthStarts

/-
  Payroll is credited at most once a month.
  The run marker of a budget is never before a payroll credit of that budget, and an unforced run
  pays only those budgets whose marker lies before the start of its month. So whatever payroll was
  credited to a budget before an unforced credit was credited on a clock from before that start
  (`Invariant`). Every transaction keeps this, whether it is committed, rolled back or misreported
  (`Invariant.act`); hence it holds along every history, and no month is paid twice unless a run is
  forced (`History.oncePerMonth`).
-/

namespace Paymaster.Payroll

open Calendar Ledger

/-! ## Payroll credits -/

/-- The entry credits payroll; transfers are described otherwise. -/
def creditsPayroll (direction : Direction) (description : String) : Bool :=
  direction = .credit && "Payroll ".toList.isPrefixOf description.toList

/-- A new entry that credits payroll. -/
def isPayroll (n : NewEntry) : Bool := creditsPayroll n.direction n.description

theorem not_creditsPayroll_transfer (name : String) :
    creditsPayroll .credit (transferDescription name) = false := by
  show creditsPayroll .credit ("Auto-balance for " ++ name) = false
  rw [creditsPayroll, String.toList_append]
  rfl

theorem creditsPayroll_description (period : Period) :
    creditsPayroll .credit period.description = true := by
  show creditsPayroll .credit ("Payroll " ++ period.label) = true
  rw [creditsPayroll, String.toList_append]
  simp

/-- The credit of payroll for one budget. -/
def Application.credit (a : Application) (period : Period) : NewEntry :=
  .system a.budget period.description .credit a.payroll

theorem not_isPayroll_transfer {a : Application} {n : NewEntry}
    (h : n ∈ (a.transfer.map (·.writes a.budget a.name)).getD []) : ¬isPayroll n := by
  rcases moving : a.transfer with _ | x <;> rw [moving] at h
  · cases h
  · rcases List.mem_append.1 h with debited | credited
    · obtain ⟨d, -, rfl⟩ := List.mem_map.1 debited
      exact Bool.false_ne_true
    · rw [List.mem_singleton.1 credited, isPayroll, NewEntry.system, not_creditsPayroll_transfer]
      exact Bool.false_ne_true

/-- Of the entries for one budget the last alone credits payroll. -/
theorem filter_isPayroll_writes (a : Application) (period : Period) :
    (a.writes period).filter isPayroll = [a.credit period] := by
  have others : ((a.transfer.map (·.writes a.budget a.name)).getD []).filter isPayroll = [] :=
    List.filter_eq_nil_iff.2 fun n hn => not_isPayroll_transfer hn
  have last : isPayroll (a.credit period) := creditsPayroll_description period
  rw [Application.writes, List.filter_append, others, List.nil_append]
  exact List.filter_cons_of_pos last

/-- A report stands for one payroll credit for each of its budgets. -/
theorem filter_isPayroll_report (report : List Application) (period : Period) :
    (report.flatMap (·.writes period)).filter isPayroll = report.map (·.credit period) := by
  induction report with
  | nil => rfl
  | cons a report ih =>
    rw [List.flatMap_cons, List.filter_append, filter_isPayroll_writes, ih]
    rfl

theorem pairwise_report {report : List Application} (period : Period)
    (ascending : (report.map (·.budget)).Pairwise (· < ·)) :
    (report.flatMap (·.writes period)).Pairwise fun m n =>
      isPayroll m → isPayroll n → m.budget ≠ n.budget := by
  refine List.pairwise_filter.1 ?_
  rw [filter_isPayroll_report]
  exact List.pairwise_map.2 (List.pairwise_map.1 (nodup_of_ascending ascending))

theorem exists_application {report : List Application} {period : Period} {n : NewEntry}
    (h : n ∈ report.flatMap (·.writes period)) (payroll : isPayroll n) :
    ∃ a ∈ report, n.budget = a.budget := by
  have credit := List.mem_filter.2 ⟨h, payroll⟩
  rw [filter_isPayroll_report] at credit
  obtain ⟨a, ha, rfl⟩ := List.mem_map.1 credit
  exact ⟨a, ha, rfl⟩

/-! ## The postings of a history -/

def Posting.isPayroll (p : Posting) : Bool :=
  creditsPayroll p.entry.direction p.entry.description

/-- The posting credits the payroll of a month to a budget, and was not forced. -/
def Posting.pays (z : Zone) (id : BudgetId) (month : Month) (p : Posting) : Bool :=
  p.isPayroll && p.entry.budget = id && !p.forced && monthAt z p.now = month

/-- No month is paid twice, nor after a payroll credit on a clock that had reached the month;
forced runs are not bound by this, but count against the unforced ones that follow. -/
structure OncePerMonth (z : Zone) (j : Journal) : Prop where
  once : ∀ id month, (j.postings.filter (Posting.pays z id month)).length ≤ 1
  final : ∀ id month start, dayStart z month.first = .ok start →
    j.postings.Pairwise fun p q =>
      p.isPayroll → p.entry.budget = id → start ≤ p.now → ¬q.pays z id month

/-- What the markers know of the postings. -/
structure Invariant (z : Zone) (j : Journal) : Prop where
  /-- A marker is never before a payroll credit of its budget. -/
  marked : ∀ p ∈ j.postings, p.isPayroll → ∀ s b, j.database.store? = some s →
    s.budget? p.entry.budget = some b → ∃ runAt, b.runAt = some runAt ∧ p.now ≤ runAt
  /-- An unforced credit was posted in the month that it pays. -/
  begun : ∀ p ∈ j.postings, p.isPayroll → p.forced = false →
    ∃ start, monthStart z p.now = .ok start ∧ start ≤ p.now
  /-- Before an unforced credit only credits from before its month were posted. -/
  ordered : j.postings.Pairwise fun p q =>
    p.isPayroll → q.isPayroll → p.entry.budget = q.entry.budget → q.forced = false →
      ∀ start, monthStart z q.now = .ok start → p.now < start

section
variable {z : Zone} {j : Journal}

theorem Invariant.start (z : Zone) (db : Database) : Invariant z { database := db } where
  marked _ none := by cases none
  begun _ none := by cases none
  ordered := .nil

/-- Where the ledger stays as it was, nothing is posted. -/
theorem note_of_entries_eq {now : Instant} {forced : Bool} {db : Database}
    (same : entriesOf db = entriesOf j.database) :
    (j.note now forced db).postings = j.postings := by
  simp [Journal.note, same]

/-- A transaction that posts nothing and keeps the markers keeps the invariant. -/
theorem Invariant.note_of_markers (h : Invariant z j) {now : Instant} {forced : Bool}
    {db : Database} (same : entriesOf db = entriesOf j.database)
    (markers : ∀ t id b', db.store? = some t → t.budget? id = some b' →
      ∃ s b, j.database.store? = some s ∧ s.budget? id = some b ∧ b.runAt = b'.runAt) :
    Invariant z (j.note now forced db) := by
  have postings : (j.note now forced db).postings = j.postings := note_of_entries_eq same
  constructor
  · intro p hp payroll t b' live row
    rw [postings] at hp
    obtain ⟨s, b, live, row, runAt⟩ := markers t _ b' live row
    rw [← runAt]
    exact h.marked p hp payroll s b live row
  · rw [postings]
    exact h.begun
  · rw [postings]
    exact h.ordered

end

/-! ## What a run posts -/

section
variable {z : Zone} {r : Run} {period : Period} {report : List Application} {s : Session}
  {t : Store} {postings : List Posting}

/-- The postings that a report stands for. -/
def posted (period : Period) (forced : Bool) (last : Int64) (report : List Application) :
    List Posting :=
  (NewEntry.records period.now last (report.flatMap (·.writes period))).map
    (Posting.mk period.now forced)

theorem note_of_settles (settles : Settles period (r.due period s.store) report s.store t) :
    (Journal.note ⟨.live s, postings⟩ period.now r.isForced
      (.live { s with store := t })).postings =
        postings ++ posted period r.isForced s.store.lastEntry report := by
  have before : entriesOf (.live s) = s.store.entries := rfl
  have after : entriesOf (.live { s with store := t }) = t.entries := rfl
  rw [Journal.note, before, after, settles.wrote.entries, List.drop_left]
  rfl

theorem of_mem_posted {forced : Bool} {last : Int64} {p : Posting}
    (h : p ∈ posted period forced last report) (payroll : p.isPayroll) :
    p.now = period.now ∧ p.forced = forced ∧ ∃ a ∈ report, p.entry.budget = a.budget := by
  obtain ⟨e, he, rfl⟩ := List.mem_map.1 h
  obtain ⟨n, hn, id, rfl⟩ := NewEntry.mem_records he
  exact ⟨rfl, rfl, exists_application hn payroll⟩

theorem pairwise_posted {forced : Bool} {last : Int64}
    (ascending : (report.map (·.budget)).Pairwise (· < ·)) :
    (posted period forced last report).Pairwise fun p q =>
      p.isPayroll → q.isPayroll → p.entry.budget ≠ q.entry.budget := by
  refine List.pairwise_map.2 (NewEntry.pairwise_records ?_ (pairwise_report period ascending))
  intro m n i k unequal payroll payroll'
  exact unequal payroll payroll'

/-- What was credited to a budget that an unforced run is to pay was credited before the month. -/
theorem Invariant.lt_monthStart (h : Invariant z ⟨.live s, postings⟩)
    (unforced : r.isForced = false) {p : Posting} (hp : p ∈ postings) (payroll : p.isPayroll)
    {b : Budget} (due : b ∈ r.due period s.store) (row : s.store.budget? p.entry.budget = some b) :
    p.now < period.monthStart := by
  obtain ⟨runAt, marker, upTo⟩ := h.marked p hp payroll s.store b rfl row
  have owed := Run.isDue_of_mem_due due
  rw [unforced] at owed
  have unpaid : ¬period.monthStart ≤ runAt := by
    simpa [isDue, alreadyPaid, marker] using (Bool.and_eq_true_iff.1 owed).2
  exact Int.lt_of_le_of_lt upTo (Int.not_le.1 unpaid)

/-- No credit of a budget that was paid is after its new marker. -/
theorem Invariant.le_marker (h : Invariant z ⟨.live s, postings⟩) {p : Posting}
    (hp : p ∈ postings ++ posted period r.isForced s.store.lastEntry report) (payroll : p.isPayroll)
    {b : Budget} (row : s.store.budget? p.entry.budget = some b) :
    p.now ≤ markerAfter b.runAt period.now := by
  have later := le_markerAfter b.runAt period.now
  rcases List.mem_append.1 hp with old | new
  · obtain ⟨runAt, marker, upTo⟩ := h.marked p old payroll s.store b rfl row
    exact Int.le_trans upTo (later.2 runAt marker)
  · rw [(of_mem_posted new payroll).1]
    exact later.1

/-- After a run that succeeds no marker is before a credit of its budget. -/
theorem Invariant.marked_pay (settles : Settles period (r.due period s.store) report s.store t)
    (h : Invariant z ⟨.live s, postings⟩) {p : Posting}
    (hp : p ∈ postings ++ posted period r.isForced s.store.lastEntry report) (payroll : p.isPayroll)
    {b : Budget} (row : t.budget? p.entry.budget = some b) :
    ∃ runAt, b.runAt = some runAt ∧ p.now ≤ runAt := by
  by_cases paid : p.entry.budget ∈ report.map (·.budget)
  · obtain ⟨a, ha, same⟩ := List.mem_map.1 paid
    obtain ⟨_, -, paid, before, after⟩ := settles.paid_row (Run.due_sublist period s.store r) ha
    rw [same] at before after
    rw [after] at row
    cases row
    refine ⟨a.runAt, rfl, ?_⟩
    rw [paid.runAt]
    exact h.le_marker hp payroll before
  · rcases List.mem_append.1 hp with old | new
    · rw [settles.unpaid_row paid] at row
      exact h.marked p old payroll s.store b rfl row
    · obtain ⟨-, -, a, ha, same⟩ := of_mem_posted new payroll
      exact absurd (List.mem_map.2 ⟨a, ha, same.symm⟩) paid

/-- What a run that succeeds posts keeps the invariant. -/
theorem Invariant.pay (settles : Settles period (r.due period s.store) report s.store t)
    (h : Invariant z ⟨.live s, postings⟩)
    (month : monthStart z period.now = .ok period.monthStart)
    (begun : period.monthStart ≤ period.now) :
    Invariant z
      (Journal.note ⟨.live s, postings⟩ period.now r.isForced (.live { s with store := t })) := by
  have rows := Run.due_sublist period s.store r
  have noted : (Journal.note ⟨.live s, postings⟩ period.now r.isForced
      (.live { s with store := t })).postings =
        postings ++ posted period r.isForced s.store.lastEntry report := note_of_settles settles
  constructor
  · intro p hp payroll t' b' live row
    obtain rfl : t = t' := Option.some.inj live
    rw [noted] at hp
    exact h.marked_pay settles hp payroll row
  · intro p hp payroll unforced
    rw [noted] at hp
    rcases List.mem_append.1 hp with old | new
    · exact h.begun p old payroll unforced
    · rw [(of_mem_posted new payroll).1]
      exact ⟨period.monthStart, month, begun⟩
  · rw [noted]
    refine List.pairwise_append.2 ⟨h.ordered, ?_, ?_⟩
    · refine (pairwise_posted (settles.ascending rows)).imp ?_
      intro p q unequal payroll payroll' same
      exact absurd same (unequal payroll payroll')
    · intro p hp q hq payroll payroll' same unforced
      obtain ⟨now, forced, a, ha, budget⟩ := of_mem_posted hq payroll'
      obtain ⟨b, due, -, row, -⟩ := settles.paid_row rows ha
      rw [← budget, ← same] at row
      intro start begins
      rw [now, month] at begins
      cases begins
      exact h.lt_monthStart (forced.symm.trans unforced) hp payroll due row

end

/-! ## Along a history -/

section
variable {offset : Int} {j : Journal}

/-- A transaction that leaves the store as it was keeps the invariant. -/
theorem Invariant.note_of_store_eq {z : Zone} (h : Invariant z j) {now : Instant} {forced : Bool}
    {db : Database} (same : db.store? = j.database.store?) :
    Invariant z (j.note now forced db) := by
  refine h.note_of_markers ?_ fun t id b' live row => ?_
  · rw [entriesOf, same]
    rfl
  · rw [same] at live
    exact ⟨t, b', live, row, rfl⟩

theorem Invariant.commit_payroll (h : Invariant (.fixed offset) j) (r : Run) (now : ClockReading) :
    Invariant (.fixed offset) (j.commit (.fixed offset) (.payroll r now)).2 := by
  show Invariant _ (j.note now.instant r.isForced
    ((r.report (.fixed offset) now.instant).run j.database).2)
  rcases Run.report_cases (.fixed offset) now.instant r j.database with
    ⟨failure, db', ran, same⟩ | ⟨s, period, report, t, live, found, ran, settles⟩
  · rw [ran]
    exact h.note_of_store_eq same
  · obtain ⟨db, postings⟩ := j
    cases live
    obtain ⟨same, month⟩ := containing_ok found
    have inner : firstSecond + 2678400 ≤ now.instant.seconds := by
      have := now.year_before
      omega
    have begun := monthStart_le inner month
    rw [← same] at month begun
    rw [ran, ← same]
    exact Invariant.pay settles h month begun

theorem Invariant.commit_configure {z : Zone} (h : Invariant z j) (budget : BudgetId)
    (actor : Option UserId) (c : AutoBalance.Configuration) (now : Instant) :
    Invariant z (j.commit z (.configure budget actor c now)).2 := by
  show Invariant z (j.note now false (LedgerM.run (do
    AutoBalance.replace budget actor c.enabled c.sources now
    pure ([] : List Application)) j.database).2)
  rw [LedgerM.run_bind]
  rcases AutoBalance.replace_cases budget actor c.enabled c.sources now j.database with
    ⟨failure, db', ran, same⟩ | ⟨s, t, live, ran, replaces⟩
  · rw [ran]
    exact h.note_of_store_eq same
  · obtain ⟨db, postings⟩ := j
    cases live
    rw [ran]
    refine h.note_of_markers replaces.entries fun t' id b' live row => ?_
    obtain rfl : t = t' := Option.some.inj live
    rw [replaces.budget?] at row
    obtain ⟨b, before, rfl⟩ := Option.map_eq_some_iff.1 row
    refine ⟨s.store, b, rfl, before, ?_⟩
    unfold AutoBalance.Configured
    split <;> rfl

/-- Every transaction keeps the invariant, whatever becomes of it. -/
theorem Invariant.act (h : Invariant (.fixed offset) j) (x : Transaction) (fate : Fate) :
    Invariant (.fixed offset) (j.act (.fixed offset) x fate).2 := by
  have committed : Invariant (.fixed offset) (j.commit (.fixed offset) x).2 := by
    cases x with
    | payroll r now => exact h.commit_payroll r now
    | configure budget actor c now => exact h.commit_configure budget actor c now
  cases fate with
  | committed => exact committed
  | rolledBack e => exact h
  | misreported e => exact committed

theorem pays_iff {z : Zone} {id : BudgetId} {month : Month} {p : Posting} :
    p.pays z id month ↔
      p.isPayroll ∧ p.entry.budget = id ∧ p.forced = false ∧ monthAt z p.now = month := by
  simp [Posting.pays, and_assoc]

/-- The start of the month that an unforced credit pays. -/
theorem Invariant.start_of_pays {z : Zone} (h : Invariant z j) {p : Posting} {id : BudgetId}
    {month : Month} (hp : p ∈ j.postings) (pays : p.pays z id month) :
    ∃ start, monthStart z p.now = .ok start ∧ start ≤ p.now ∧
      dayStart z month.first = .ok start := by
  obtain ⟨payroll, -, unforced, same⟩ := pays_iff.1 pays
  obtain ⟨start, month, begun⟩ := h.begun p hp payroll unforced
  refine ⟨start, month, begun, ?_⟩
  rw [monthStart_eq, same] at month
  split at month
  · exact month
  · cases month

/-- After a payroll credit on a clock that had reached a month, no unforced one pays the month. -/
theorem Invariant.separate {z : Zone} (h : Invariant z j) :
    j.postings.Pairwise fun p q => ∀ id month start, dayStart z month.first = .ok start →
      p.isPayroll → p.entry.budget = id → start ≤ p.now → ¬q.pays z id month := by
  refine h.ordered.imp_of_mem fun {p q} _ hq ordered id month start begins => ?_
  intro payroll budget reached pays
  obtain ⟨payroll', budget', unforced, -⟩ := pays_iff.1 pays
  obtain ⟨start', starts, -, begins'⟩ := h.start_of_pays hq pays
  obtain rfl : start = start' := Except.ok.inj (begins.symm.trans begins')
  have earlier := ordered payroll payroll' (budget.trans budget'.symm) unforced start starts
  exact Int.not_le.2 earlier reached

theorem length_le_one {α : Type} {xs : List α} (h : xs.Pairwise fun _ _ => False) :
    xs.length ≤ 1 := by
  match xs with
  | [] => exact Nat.zero_le 1
  | [_] => exact Nat.le_refl 1
  | x :: y :: _ => exact ((List.pairwise_cons.1 h).1 y List.mem_cons_self).elim

theorem Invariant.paysOnce {z : Zone} (h : Invariant z j) : OncePerMonth z j where
  once id month := by
    refine length_le_one (List.pairwise_filter.2 ?_)
    refine h.separate.imp_of_mem fun {p q} hp _ separate pays pays' => ?_
    obtain ⟨start, -, reached, begins⟩ := h.start_of_pays hp pays
    obtain ⟨payroll, budget, -⟩ := pays_iff.1 pays
    exact separate id month start begins payroll budget reached pays'
  final id month start begins := h.separate.imp fun separate => separate id month start begins

/-- In a zone of constant offset, along every history of a database: no budget is credited the
payroll of a month twice unless a run is forced, nor unforced once payroll was credited to it on a
clock that had reached the month. -/
theorem History.oncePerMonth {db : Database} (h : History (.fixed offset) db j) :
    OncePerMonth (.fixed offset) j := by
  have invariant : Invariant (.fixed offset) j :=
    h.induct (P := Invariant (.fixed offset)) (Invariant.start _ db) fun x fate _ kept =>
      kept.act x fate
  exact invariant.paysOnce

end

/-- Noon on the twentieth of March 2024, and of the April that follows. -/
def twentieth (april : Bool) : ClockReading :=
  if april then { instant := { seconds := 1713614400, nanos := 0 } }
  else { instant := { seconds := 1710936000, nanos := 0 } }

def rent : Database :=
  .live { store := {
    budgets := [⟨1, "rent", ⟨120⟩, none, false, Instant.first, Instant.first⟩]
    lastBudget := 1
    budgets_byId := List.pairwise_singleton _ _ } }

/-- The calls of a cycle in April. -/
def april : Surroundings where
  clock _ := (twentieth true).instant
  zone := .fixed 0
  latency := 0

/-- The March is paid once although the run that paid it was reported to have failed and was made
again; a forced run pays it once more, and the April is paid by a cycle. -/
theorem oncePerMonth_rent : ∃ j, History (.fixed 0) rent j ∧
    j.postings.map (·.forced) = [false, true, false] ∧ OncePerMonth (.fixed 0) j := by
  have reported : History (.fixed 0) rent _ :=
    .transaction (.payroll .monthly (twentieth false)) (.misreported .cancelled) .start
  have repeated := reported.transaction (.payroll .monthly (twentieth false)) .committed
  have forced := repeated.transaction (.payroll (.single 1 none true) (twentieth false)) .committed
  have serves := serves_journaled (s := april) (fun _ => twentieth true) fun _ => rfl
  have retried := History.cycle serves .standard ⟨0, none, _⟩ forced
  refine ⟨_, retried, ?_, retried.oncePerMonth⟩
  decide +kernel

end Paymaster.Payroll
