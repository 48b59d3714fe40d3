import Paymaster.Proofs.Payroll.Runs
import Paymaster.Proofs.Calendar.FirstInstants
import Paymaster.Proofs.Calendar.StoredOrder

/-
  What the monthly run does, in full.
  The store selects the budgets to pay by comparing texts, and each budget is looked at once more
  before it is paid; in years of four digits both agree with the order of time, unless a marker is a
  leap second that ends, within a minute, as the month starts (`textsTell_of_plain`). So
  a monthly run that succeeds pays exactly the budgets that are owed their month (`owed`), writes
  the entries that its report lists and nothing else, moves the markers of the budgets that it paid
  and leaves every other row as it was (`monthlyReport_paysAll`).
-/

namespace Paymaster.Payroll

open Ledger

/-- Payroll is set, and the marker is absent or lies before the start of the month. -/
def owed (start : Instant) (b : Budget) : Bool :=
  b.payroll.isPositive && b.runAt.all fun runAt => decide (runAt < start)

section
variable {start : Instant} {s : Store}

theorem not_alreadyPaid_eq (runAt : Option Instant) (start : Instant) :
    (!alreadyPaid runAt start) = runAt.all fun runAt => decide (runAt < start) := by
  cases runAt with
  | none => rfl
  | some runAt =>
    show (!decide (start.rank ≤ runAt.rank)) = decide (runAt.rank < start.rank)
    rw [← decide_not]
    exact decide_eq_decide.2 Int.not_le

/-- No marker is a leap second that ends, within a minute, as the month starts. The text of such a
marker lies in the month, and so does the marker itself as the store gives it back. -/
def MarkersClear (start : Instant) (s : Store) : Prop :=
  ∀ b ∈ s.budgets, ∀ runAt, b.runAt = some runAt →
    runAt.IsLegible ∨ runAt.seconds + 1 ≠ start.seconds

/-- Markers that texts have given are clear of every month. -/
theorem markersClear_of_legible
    (legible : ∀ b ∈ s.budgets, ∀ runAt, b.runAt = some runAt → runAt.IsLegible) :
    MarkersClear start s := fun b row runAt marker => .inl (legible b row runAt marker)

/-- All markers are clear of a month that starts with a minute. -/
theorem markersClear_of_minute (minute : start.seconds % 60 = 0) : MarkersClear start s := by
  intro b _ runAt _
  rw [Instant.isLegible_iff]
  omega

/-- The texts of the markers tell which of them lie before the start of the month. -/
def TextsTell (start : Instant) (s : Store) : Prop :=
  ∀ b ∈ s.budgets, ∀ runAt, b.runAt = some runAt →
    (runAt.storedText < start.storedText ↔ runAt < start)

theorem textsTell_of_plain (whole : start.nanos = 0) (plain : start.HasPlainYear)
    (markers : ∀ b ∈ s.budgets, ∀ runAt, b.runAt = some runAt → runAt.HasPlainYear)
    (clear : MarkersClear start s) : TextsTell start s := fun b row runAt marker =>
  storedText_lt_iff_of_whole (markers b row runAt marker) plain whole (clear b row runAt marker)

theorem isEligible_eq_owed (tells : TextsTell start s) {b : Budget} (row : b ∈ s.budgets) :
    Store.isEligible start b = owed start b := by
  unfold Store.isEligible owed
  rcases found : b.runAt with _ | runAt
  · rfl
  · have order := tells b row runAt found
    simp only [Option.all_some, order]

/-- Whom the monthly run pays. -/
theorem due_monthly {period : Period} (tells : TextsTell period.monthStart s) :
    Run.monthly.due period s = s.budgets.filter (owed period.monthStart) := by
  show (s.budgets.filter _).filter _ = _
  rw [List.filter_filter]
  refine List.filter_congr fun b hb => ?_
  rw [isEligible_eq_owed tells hb, isDue, not_alreadyPaid_eq, Bool.false_or]
  unfold owed
  rw [Bool.and_self]

end

/-! ## Entries of the engine -/

theorem actor_of_mem_writes {a : Application} {period : Period} {n : NewEntry}
    (h : n ∈ a.writes period) : n.actor = none := by
  rcases mem_writes_cases h with ⟨_, _, -, -, rfl⟩ | ⟨_, _, rfl⟩ <;> rfl

/-! ## The whole run -/

/-- From `s` to `t` every budget that was owed its month was paid, as the report lists, and
nothing else was done. -/
structure PaysAll (period : Period) (report : List Application) (s t : Store) : Prop where
  /-- The report has one application for each budget that was owed its month. -/
  budgets : report.map (·.budget) = (s.budgets.filter (owed period.monthStart)).map (·.id)
  ascending : (report.map (·.budget)).Pairwise (· < ·)
  /-- The ledger goes on with what the report lists. -/
  entries : t.entries = s.entries ++
    NewEntry.records period.now s.lastEntry (report.flatMap (·.writes period))
  /-- The engine made these entries at the instant of the run. -/
  made : ∀ e ∈ NewEntry.records period.now s.lastEntry (report.flatMap (·.writes period)),
    e.actor = none ∧ e.createdAt = period.now ∧ e.updatedAt = period.now
  /-- A budget that was paid keeps everything but its marker and the time of its last change. -/
  paid : ∀ a ∈ report, ∃ b, s.budget? a.budget = some b ∧ a.name = b.name ∧
    a.payroll = b.payroll ∧ a.runAt = markerAfter b.runAt period.now ∧
      t.budget? a.budget = some { b with runAt := some a.runAt, updatedAt := a.runAt }
  unpaid : ∀ id, id ∉ report.map (·.budget) → t.budget? id = s.budget? id
  ids : t.budgets.map (·.id) = s.budgets.map (·.id)
  edges : t.edges = s.edges
  members : t.members = s.members

theorem Settles.paysAll {period : Period} {report : List Application} {s t : Store}
    (h : Settles period (s.budgets.filter (owed period.monthStart)) report s t) :
    PaysAll period report s t := by
  exact {
    budgets := h.budgets
    ascending := h.ascending List.filter_sublist
    entries := h.wrote.entries
    made := fun e he => by
      obtain ⟨n, hn, id, rfl⟩ := NewEntry.mem_records he
      obtain ⟨a, -, hn⟩ := List.mem_flatMap.1 hn
      exact ⟨actor_of_mem_writes hn, rfl, rfl⟩
    paid := fun a ha => by
      obtain ⟨b, -, paid, before, after⟩ := h.paid_row List.filter_sublist ha
      exact ⟨b, before, paid.name, paid.payroll, paid.runAt, after⟩
    unpaid := fun id other => h.unpaid_row other
    ids := by
      rw [h.wrote.budgets, List.map_map]
      exact List.map_congr_left fun b _ => Budget.stampAll_id _ b
    edges := h.wrote.edges
    members := h.wrote.members }

/-- A monthly run that succeeds does what it reports and misses nobody, provided that the start of
the month and the markers lie in years of four digits, where no marker is a leap second within a
minute whose text is already that of the month. -/
theorem monthlyReport_paysAll {z : Zone} {now : Instant} {db db' : Database}
    {report : List Application} (h : (monthlyReport z now).run db = (.ok report, db'))
    (hstart : ∀ start, Calendar.monthStart z now = .ok start → start.HasPlainYear)
    (markers : ∀ s, db.store? = some s → ∀ b ∈ s.budgets, ∀ runAt, b.runAt = some runAt →
      runAt.HasPlainYear)
    (clear : ∀ start, Calendar.monthStart z now = .ok start → ∀ s, db.store? = some s →
      MarkersClear start s) :
    ∃ s period t, db = .live s ∧ Period.containing z now = .ok period ∧
      db' = .live { s with store := t } ∧ PaysAll period report s.store t := by
  obtain ⟨s, period, t, rfl, found, rfl, settles⟩ := Run.report_ok (r := .monthly) h
  obtain ⟨-, begins⟩ := containing_ok found
  have tells := textsTell_of_plain (Calendar.monthStart_whole begins) (hstart _ begins)
    (markers s.store rfl) (clear _ begins s.store rfl)
  rw [due_monthly tells] at settles
  exact ⟨s, period, t, rfl, found, rfl, settles.paysAll⟩

/-- What a check of all markers gives, in the form that the theorems on runs ask for. -/
theorem forall_marker {P : Instant → Prop} [DecidablePred P] {bs : List Budget}
    (h : ∀ b ∈ bs, b.runAt.all fun runAt => decide (P runAt)) :
    ∀ b ∈ bs, ∀ runAt, b.runAt = some runAt → P runAt := by
  intro b row runAt marker
  have checked := h b row
  rw [marker] at checked
  exact of_decide_eq_true checked

/-- A budget in debt that was last paid in January, the source that it draws on, paid this month,
and a budget without payroll. -/
def household : Store where
  budgets :=
    let january : Instant := { seconds := 1705320000, nanos := 0 }
    let march : Instant := { seconds := 1709280000, nanos := 500000000 }
    [⟨1, "rent", ⟨100⟩, some january, true, january, january⟩,
      ⟨2, "food", ⟨50⟩, some march, true, january, march⟩,
      ⟨3, "rest", ⟨0⟩, none, false, january, january⟩]
  entries := [⟨1, 1, none, "", .debit, ⟨30⟩, Instant.first, Instant.first⟩]
  edges := [⟨1, 2, 1⟩]
  lastBudget := 3
  lastEntry := 1
  budgets_byId := by decide
  entries_byId := by decide
  entries_le := by decide
  edges_byKey := by decide

/-- In March the first of these is paid, after a transfer from the second has cleared its debt. Its
marker moves, and the other budgets stay as they are. -/
theorem monthlyReport_paysAll_household :
    let march : Instant := { seconds := 1710504000, nanos := 0 }
    let rent : Application := ⟨1, "rent", ⟨100⟩, some ⟨⟨30⟩, [⟨2, ⟨30⟩⟩], ⟨30⟩⟩, march⟩
    ∃ t, (monthlyReport .utc march).run (.live { store := household }) =
        (.ok [rent], .live { store := t }) ∧
      t.entries = household.entries ++
        [⟨2, 2, none, "Auto-balance for rent", .debit, ⟨30⟩, march, march⟩,
          ⟨3, 1, none, "Auto-balance for rent", .credit, ⟨30⟩, march, march⟩,
          ⟨4, 1, none, "Payroll March 2024", .credit, ⟨100⟩, march, march⟩] ∧
      (t.budget? 1).map (·.runAt) = some (some march) ∧ t.budget? 2 = household.budget? 2 ∧
        t.budget? 3 = household.budget? 3 := by
  intro march rent
  have reported : ((monthlyReport .utc march).run (.live { store := household })).1 =
      .ok [rent] := by decide +kernel
  rcases ran : (monthlyReport .utc march).run (.live { store := household }) with ⟨result, db'⟩
  rw [ran] at reported
  cases reported
  have month : Period.containing .utc march =
      .ok ⟨march, { seconds := 1709251200, nanos := 0 }, "March 2024"⟩ := by decide +kernel
  obtain ⟨s, period, t, same, found, rfl, all⟩ := monthlyReport_paysAll ran
    (fun start begun => by
      rw [(containing_ok month).2] at begun
      cases begun
      decide +kernel)
    (fun s same => by
      obtain rfl : household = s := Option.some.inj same
      exact forall_marker (by decide +kernel))
    (fun start begun s same => by
      obtain rfl : household = s := Option.some.inj same
      exact markersClear_of_legible (forall_marker (by decide +kernel)))
  cases same
  rw [month] at found
  cases found
  obtain ⟨b, -, -, -, -, after⟩ := all.paid rent (List.mem_singleton_self _)
  refine ⟨t, rfl, ?_, ?_, all.unpaid 2 (by decide), all.unpaid 3 (by decide)⟩
  · rw [all.entries]
    rfl
  · rw [after]
    rfl

end Paymaster.Payroll
