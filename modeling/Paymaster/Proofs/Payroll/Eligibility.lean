import Paymaster.Proofs.Payroll.Monthly

/-
  Whom the store selects for payroll.
  The store compares the texts of markers byte by byte; the check before a payment compares the
  markers as instants. In years of four digits both come to the same: the budgets that are selected
  are those with a payroll that the check lets pass, each once and in the order of their ids
  (`eligibleBudgets_unpaid`). Leap seconds within a minute count as what their texts show, which is
  part of the second after them, and there the two can part (`eligibleBudgets_withinMinute`).
-/

namespace Paymaster.Payroll

open Ledger

/-- Of the rows of a store a query selects those that are not paid yet. -/
structure SelectsUnpaid (start : Instant) (rows selected : List Budget) : Prop where
  /-- Payroll is set, and the marker is absent or its bytes go before those of the start. -/
  stored : ∀ b, b ∈ selected ↔ b ∈ rows ∧ b.payroll.isPositive ∧ ∀ runAt, b.runAt = some runAt →
    Text.bytes runAt.storedText < Text.bytes start.storedText
  /-- Payroll is set, and the month is not paid, the marker and the start taken as their texts give
  them. -/
  read : ∀ b, b ∈ selected ↔ b ∈ rows ∧ b.payroll.isPositive ∧
    ¬alreadyPaid (b.runAt.map Instant.asRead) start.asRead
  /-- Where neither is a leap second within a minute: payroll is set, and the month is not paid. -/
  unpaid : start.IsLegible → ∀ b ∈ rows, (∀ runAt, b.runAt = some runAt → runAt.IsLegible) →
    (b ∈ selected ↔ b.payroll.isPositive ∧ ¬alreadyPaid b.runAt start)
  /-- Each is selected once, in the order of the ids. -/
  ascending : selected.Pairwise (·.id < ·.id)

theorem isEligible_iff {start : Instant} {b : Budget} : Store.isEligible start b ↔
    b.payroll.isPositive ∧ ∀ runAt, b.runAt = some runAt →
      Text.bytes runAt.storedText < Text.bytes start.storedText := by
  unfold Store.isEligible
  rcases b.runAt with _ | runAt
  · simp
  · rw [Bool.and_eq_true, decide_eq_true_eq, storedText_lt_iff_bytes_lt]
    simp

/-- The query compares the instants that the texts give. -/
theorem isEligible_eq_unpaid {start : Instant} {b : Budget} (plain : start.HasPlainYear)
    (marker : ∀ runAt, b.runAt = some runAt → runAt.HasPlainYear) :
    Store.isEligible start b =
      (b.payroll.isPositive && !alreadyPaid (b.runAt.map Instant.asRead) start.asRead) := by
  unfold Store.isEligible
  rw [not_alreadyPaid_eq]
  rcases found : b.runAt with _ | runAt
  · rfl
  · have order := storedText_lt_iff_asRead (marker runAt found) plain
    simp only [Option.map_some, Option.all_some, order]

theorem map_asRead_of_isLegible {runAt : Option Instant}
    (legible : ∀ t, runAt = some t → t.IsLegible) : runAt.map Instant.asRead = runAt := by
  rcases runAt with _ | t
  · rfl
  · exact congrArg some (Instant.asRead_of_isLegible (legible t rfl))

/-- For years of four digits, leap seconds included: the query for the budgets that are owed their
month answers with exactly those whose month is not paid yet, as the texts have it. -/
theorem eligibleBudgets_unpaid {start : Instant} {s : Session} (plain : start.HasPlainYear)
    (markers : ∀ b ∈ s.store.budgets, ∀ runAt, b.runAt = some runAt → runAt.HasPlainYear) :
    ∃ selected, (eligibleBudgets start).run (.live s) = (.ok selected, .live s) ∧
      SelectsUnpaid start s.store.budgets selected := by
  have read (b : Budget) : b ∈ s.store.eligible start ↔ b ∈ s.store.budgets ∧
      b.payroll.isPositive ∧ ¬alreadyPaid (b.runAt.map Instant.asRead) start.asRead := by
    rw [Store.eligible, List.mem_filter]
    refine and_congr_right fun row => ?_
    rw [isEligible_eq_unpaid plain (markers b row)]
    simp
  refine ⟨s.store.eligible start, rfl, fun b => ?_, read, fun begins b row legible => ?_,
    s.store.budgets_byId.sublist List.filter_sublist⟩
  · rw [Store.eligible, List.mem_filter, isEligible_iff]
  · rw [read, map_asRead_of_isLegible legible, Instant.asRead_of_isLegible begins]
    exact and_iff_right row

/-- The first instant of a March. -/
def march : Instant := { seconds := 1709251200, nanos := 0 }

/-- Budgets last paid half way through a leap second before the March, with its first instant, a
nanosecond later, and never. -/
def overLeapSecond : Store where
  budgets :=
    let leap : Instant := { seconds := 1709251199, nanos := 1500000000 }
    let later : Instant := { seconds := 1709251200, nanos := 1 }
    [⟨1, "rent", ⟨100⟩, some leap, true, leap, leap⟩,
      ⟨2, "food", ⟨50⟩, some march, true, leap, march⟩,
      ⟨3, "rest", ⟨20⟩, some later, false, leap, later⟩, ⟨4, "gifts", ⟨5⟩, none, false, leap, leap⟩]
  lastBudget := 4
  budgets_byId := by decide

theorem eligibleBudgets_unpaid_overLeapSecond :
    ∃ selected, SelectsUnpaid march overLeapSecond.budgets selected ∧
      selected.map (·.id) = [1, 4] := by
  have plain : march.HasPlainYear := by decide +kernel
  obtain ⟨selected, ran, selects⟩ := eligibleBudgets_unpaid (s := { store := overLeapSecond }) plain
    (forall_marker (by decide +kernel))
  have ids : ((eligibleBudgets march).run (.live { store := overLeapSecond })).1.map
      (fun selected => selected.map (·.id)) = .ok [1, 4] := by decide +kernel
  rw [ran] at ids
  exact ⟨selected, selects, Except.ok.inj ids⟩

/-- A budget that was paid as second 30 of a minute began. -/
def paidAtThirty : Store where
  budgets :=
    let thirty : Instant := { seconds := 1709251230, nanos := 0 }
    [⟨1, "rent", ⟨100⟩, some thirty, true, march, thirty⟩]
  lastBudget := 1
  budgets_byId := by decide

/-- Asked with the half of a leap second after second 29, whose text is that of the half of second
30, the query selects the budget although it was paid after that instant. -/
theorem eligibleBudgets_withinMinute :
    let start : Instant := { seconds := 1709251229, nanos := 1500000000 }
    let db : Database := .live { store := paidAtThirty }
    start.HasPlainYear ∧
      (∀ b ∈ paidAtThirty.budgets, ∀ runAt, b.runAt = some runAt → runAt.HasPlainYear) ∧
      (∃ b ∈ paidAtThirty.budgets, (eligibleBudgets start).run db = (.ok [b], db) ∧
        alreadyPaid b.runAt start) ∧
      ¬∃ selected, (eligibleBudgets start).run db = (.ok selected, db) ∧
        ∀ b, b ∈ selected ↔
          b ∈ paidAtThirty.budgets ∧ b.payroll.isPositive ∧ ¬alreadyPaid b.runAt start := by
  intro start db
  have selects : paidAtThirty.eligible start = paidAtThirty.budgets := by decide +kernel
  have ran : (eligibleBudgets start).run db = (.ok paidAtThirty.budgets, db) := by
    rw [← selects]
    rfl
  obtain ⟨b, row, paid⟩ : ∃ b ∈ paidAtThirty.budgets, alreadyPaid b.runAt start :=
    ⟨_, List.mem_singleton_self _, by decide⟩
  refine ⟨by decide +kernel, forall_marker (by decide +kernel),
    ⟨_, List.mem_singleton_self _, ran, ?_⟩, ?_⟩
  · decide
  · rintro ⟨selected, answers, unpaid⟩
    rw [ran] at answers
    cases answers
    exact ((unpaid b).1 row).2.2 paid

end Paymaster.Payroll
