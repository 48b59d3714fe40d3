import Mathlib
import Paymaster.Payroll.Run
import Paymaster.Proofs.Ledger.Posting
import Paymaster.Proofs.Money

/-
  What paying writes.
  The report of a run is enough to say what the run wrote: `Application.writes` lists the entries
  for one budget, the debits of its transfer, the credit of their total, and the credit of its
  payroll. Each step of a run is inverted once: `debitSources_ok`, `coverDeficit_ok`, `apply_ok`,
  `applyAll_ok`. The last says that a run over a list of budgets pays exactly those that are due,
  in their order, and writes exactly what its report lists.
-/

namespace Paymaster.Payroll

open Ledger

/-! ## What a report stands for -/

/-- The debit of one source. -/
def SourceDebit.write (d : SourceDebit) (description : String) : NewEntry :=
  .system d.source description .debit d.amount

/-- The entries of a transfer to the budget `id` of this name. -/
def Transfer.writes (t : Transfer) (id : BudgetId) (name : String) : List NewEntry :=
  t.debits.map (·.write (transferDescription name)) ++
    [.system id (transferDescription name) .credit t.total]

/-- The entries for one budget. -/
def Application.writes (a : Application) (period : Period) : List NewEntry :=
  (a.transfer.map (·.writes a.budget a.name)).getD [] ++
    [.system a.budget period.description .credit a.payroll]

/-- Each of these entries is the debit of a source or a credit of the budget. -/
theorem mem_writes_cases {a : Application} {period : Period} {n : NewEntry}
    (h : n ∈ a.writes period) :
    (∃ x d, a.transfer = some x ∧ d ∈ x.debits ∧ n = d.write (transferDescription a.name)) ∨
      ∃ description amount, n = .system a.budget description .credit amount := by
  unfold Application.writes at h
  rcases List.mem_append.1 h with moved | credited
  · rcases moving : a.transfer with _ | x <;> rw [moving] at moved
    · cases moved
    · rcases List.mem_append.1 moved with debited | credited
      · obtain ⟨d, hd, rfl⟩ := List.mem_map.1 debited
        exact .inl ⟨x, d, rfl, hd, rfl⟩
      · exact .inr ⟨_, _, List.mem_singleton.1 credited⟩
  · exact .inr ⟨_, _, List.mem_singleton.1 credited⟩

/-- The run marker that is set for one budget. -/
def Application.stamp (a : Application) : BudgetId × Instant := (a.budget, a.runAt)

/-- The total of a transfer is what its sources gave. -/
def Transfer.Balanced (t : Transfer) : Prop :=
  t.total.toInt = (t.debits.map (·.amount.toInt)).sum

/-- The transfer clears the budget's deficit in the store `s`, as the weights of its sources
say. -/
structure Covers (s : Store) (b : Budget) (t : Transfer) : Prop where
  deficit : ∃ balance, s.balance b.id = .ok balance ∧ balance.isNegative ∧ t.deficit = balance.abs
  debits : t.debits.map (fun d => (d.source, d.amount.toInt)) =
    (shares t.deficit (s.sourcesOf b.id)).filter (0 < ·.2)
  balanced : t.Balanced
  positive : t.total.isPositive

/-- `a` reports that the budget `b` was paid for the period. -/
structure Paid (period : Period) (b : Budget) (a : Application) : Prop where
  positive : b.payroll.isPositive
  budget : a.budget = b.id
  name : a.name = b.name
  payroll : a.payroll = b.payroll
  runAt : a.runAt = markerAfter b.runAt period.now
  balanced : ∀ t, a.transfer = some t → t.Balanced

/-- The budget, as it was read, is to be paid for the month. -/
def isDue (period : Period) (force : Bool) (b : Budget) : Bool :=
  b.payroll.isPositive && (force || !alreadyPaid b.runAt period.monthStart)

/-- Paying a budget is to pass it over, or to cover its deficit, credit it and mark it. -/
theorem apply_eq (b : Budget) (period : Period) (force : Bool) :
    apply b period force =
      if isDue period force b then do
        let transfer ← transferFor b period.now
        let _ ← insertEntry (.system b.id period.description .credit b.payroll) period.now
        let runAt := markerAfter b.runAt period.now
        markRun b.id runAt
        pure (some ⟨b.id, b.name, b.payroll, transfer, runAt⟩)
      else pure none := by
  unfold apply isDue
  cases b.payroll.isPositive <;> cases force <;> cases alreadyPaid b.runAt period.monthStart <;> rfl

/-- From `s` to `t` the budgets of a list were paid, and `report` lists how. -/
structure Settles (period : Period) (due : List Budget) (report : List Application) (s t : Store) :
    Prop where
  paid : List.Forall₂ (Paid period) due report
  wrote : Wrote period.now (report.flatMap (·.writes period)) (report.map Application.stamp) s t

/-- A new marker is neither before the run nor before the old marker. -/
theorem le_markerAfter (runAt : Option Instant) (now : Instant) :
    now ≤ markerAfter runAt now ∧ ∀ r, runAt = some r → r ≤ markerAfter runAt now := by
  cases runAt with
  | none => exact ⟨Int.le_refl _, fun r none => by cases none⟩
  | some r =>
    show now ≤ (if r ≤ now then now else r) ∧
      ∀ r', some r = some r' → r' ≤ (if r ≤ now then now else r)
    split
    · rename_i before
      exact ⟨Int.le_refl _, fun r' same => by cases same; exact before⟩
    · rename_i after
      exact ⟨Int.le_of_not_le after, fun r' same => by cases same; exact Int.le_refl _⟩

/-! ## The steps of a run, confined -/

theorem confined_debitSources (description : String) (now : Instant)
    (parts : List (BudgetId × Int)) : (debitSources description now parts).Confined := by
  induction parts with
  | nil => exact LedgerM.confined_pure _
  | cons part parts ih =>
    simp only [debitSources]
    have rest (amount : Money) : LedgerM.Confined (do
        let _ ← insertEntry (.system part.1 description .debit amount) now
        let debits ← debitSources description now parts
        pure (⟨part.1, amount⟩ :: debits)) :=
      (confined_insertEntry _ _).bind fun _ => ih.bind fun _ => LedgerM.confined_pure _
    split
    · exact ih
    · split
      · exact (LedgerM.confined_pure _).bind rest
      · exact (LedgerM.confined_throw _).bind rest

theorem confined_currentBalance (id : BudgetId) : (currentBalance id).Confined :=
  LedgerM.confined_statement _

theorem confined_sourcesOf (id : BudgetId) : (sourcesOf id).Confined := LedgerM.confined_query _

theorem confined_coverDeficit (b : Budget) (now : Instant) : (coverDeficit b now).Confined := by
  refine (confined_currentBalance _).bind fun balance => ?_
  split
  · exact LedgerM.confined_pure _
  refine (confined_sourcesOf _).bind fun sources => (confined_debitSources _ _ _).bind fun debits =>
    (LedgerM.confined_checked _).bind fun total => ?_
  split
  · exact LedgerM.confined_pure _
  · exact (confined_insertEntry _ _).bind fun _ => LedgerM.confined_pure _

theorem confined_transferFor (b : Budget) (now : Instant) : (transferFor b now).Confined := by
  unfold transferFor
  split
  · exact confined_coverDeficit b now
  · exact LedgerM.confined_pure _

theorem confined_apply (b : Budget) (period : Period) (force : Bool) :
    (apply b period force).Confined := by
  rw [apply_eq]
  split
  · exact (confined_transferFor _ _).bind fun _ => (confined_insertEntry _ _).bind fun _ =>
      (confined_markRun _ _).bind fun _ => LedgerM.confined_pure _
  · exact LedgerM.confined_pure _

theorem confined_applyAll (period : Period) (bs : List Budget) :
    (applyAll period bs).Confined := by
  induction bs with
  | nil => exact LedgerM.confined_pure _
  | cons b bs ih =>
    exact (confined_apply _ _ _).bind fun _ => ih.bind fun _ => LedgerM.confined_pure _

/-! ## The steps of a run, inverted -/

variable {period : Period} {now : Instant} {s t : Store}

theorem debitSources_ok {description : String} {parts : List (BudgetId × Int)}
    {debits : List SourceDebit}
    (h : (debitSources description now parts).onStore s = (.ok debits, t)) :
    Wrote now (debits.map (·.write description)) [] s t ∧
      debits.map (fun d => (d.source, d.amount.toInt)) = parts.filter (0 < ·.2) := by
  induction parts generalizing debits s with
  | nil =>
    cases h
    exact ⟨Wrote.refl now s, rfl⟩
  | cons part parts ih =>
    obtain ⟨source, cents⟩ := part
    simp only [debitSources] at h
    split at h
    · rename_i nothing
      have none_here : ¬0 < cents := by omega
      simpa [none_here] using ih h
    · rename_i something
      have some_here : 0 < cents := by omega
      split at h
      · rename_i amount fits
        rw [pure_bind] at h
        obtain ⟨_, s₁, wrote, h⟩ := (confined_insertEntry _ _).onStore_bind_ok.1 h
        obtain ⟨rest, s₂, wrote_rest, h⟩ := (confined_debitSources _ _ _).onStore_bind_ok.1 h
        obtain ⟨rfl, rfl⟩ := LedgerM.onStore_pure_ok.1 h
        obtain ⟨first, -⟩ := insertEntry_ok wrote
        obtain ⟨others, same⟩ := ih wrote_rest
        refine ⟨first.trans others, ?_⟩
        simp [same, some_here, Money.toInt_of_ofInt? fits]
      · cases h

theorem currentBalance_ok {id : BudgetId} {balance : Money}
    (h : (currentBalance id).onStore s = (.ok balance, t)) :
    s.balance id = .ok balance ∧ s = t := by
  rw [currentBalance, LedgerM.onStore_statement] at h
  rcases total : s.balance id with cause | total' <;> simp only [total] at h
  · cases h
  · cases h
    exact ⟨rfl, rfl⟩

theorem debit_pos {debits : List SourceDebit} {parts : List (BudgetId × Int)}
    (listed : debits.map (fun d => (d.source, d.amount.toInt)) = parts.filter (0 < ·.2))
    {d : SourceDebit} (hd : d ∈ debits) : 0 < d.amount.toInt := by
  have part : (d.source, d.amount.toInt) ∈ debits.map fun d => (d.source, d.amount.toInt) :=
    List.mem_map.2 ⟨d, hd, rfl⟩
  rw [listed, List.mem_filter] at part
  simpa using part.2

/-- Debits of positive parts are none if their total is not positive. -/
theorem debits_eq_nil {debits : List SourceDebit} {parts : List (BudgetId × Int)} {total : Money}
    (listed : debits.map (fun d => (d.source, d.amount.toInt)) = parts.filter (0 < ·.2))
    (balanced : total.toInt = (debits.map (·.amount.toInt)).sum) (none : ¬total.isPositive) :
    debits = [] := by
  have positive : ∀ n ∈ debits.map (·.amount.toInt), 0 < n := fun n hn => by
    obtain ⟨d, hd, rfl⟩ := List.mem_map.1 hn
    exact debit_pos listed hd
  by_contra some_debit
  have sum := List.sum_pos _ positive (by simpa using some_debit)
  rw [← balanced] at sum
  simp [Money.isPositive, sum] at none

/-- A budget in debt has its sources debited, and what they gave is credited if it is something. -/
theorem coverDeficit_cases {b : Budget} {transfer : Option Transfer}
    (h : (coverDeficit b now).onStore s = (.ok transfer, t)) :
    ∃ balance, s.balance b.id = .ok balance ∧
      (¬balance.isNegative ∧ transfer = none ∧ s = t ∨
        balance.isNegative ∧ ∃ debits u total,
          (debitSources (transferDescription b.name) now
            (shares balance.abs (s.sourcesOf b.id))).onStore s = (.ok debits, u) ∧
          Money.sum (debits.map (·.amount)) = .ok total ∧
          (¬total.isPositive ∧ transfer = none ∧ u = t ∨
            total.isPositive ∧ transfer = some ⟨balance.abs, debits, total⟩ ∧
              ∃ entry, (insertEntry (.system b.id (transferDescription b.name) .credit total)
                now).onStore u = (.ok entry, t))) := by
  obtain ⟨balance, s₁, read, h⟩ := (confined_currentBalance _).onStore_bind_ok.1 h
  obtain ⟨found, rfl⟩ := currentBalance_ok read
  refine ⟨balance, found, ?_⟩
  split at h
  · rename_i solvent
    cases h
    exact .inl ⟨by simpa using solvent, rfl, rfl⟩
  rename_i negative
  obtain ⟨sources, s₂, listed, h⟩ := (confined_sourcesOf _).onStore_bind_ok.1 h
  rw [sourcesOf, LedgerM.onStore_query] at listed
  cases listed
  obtain ⟨debits, u, debited, h⟩ := (confined_debitSources _ _ _).onStore_bind_ok.1 h
  obtain ⟨total, s₃, summed, h⟩ := (LedgerM.confined_checked _).onStore_bind_ok.1 h
  obtain ⟨sum, rfl⟩ := LedgerM.onStore_checked_ok.1 summed
  refine .inr ⟨by simpa using negative, debits, u, total, debited, sum, ?_⟩
  split at h
  · rename_i nothing
    cases h
    exact .inl ⟨by simpa using nothing, rfl, rfl⟩
  · rename_i something
    obtain ⟨entry, s₄, credited, h⟩ := (confined_insertEntry _ _).onStore_bind_ok.1 h
    obtain ⟨rfl, rfl⟩ := LedgerM.onStore_pure_ok.1 h
    exact .inr ⟨by simpa using something, rfl, entry, credited⟩

/-- Without a transfer nothing is written. -/
theorem coverDeficit_ok {b : Budget} {transfer : Option Transfer}
    (h : (coverDeficit b now).onStore s = (.ok transfer, t)) :
    Wrote now ((transfer.map (·.writes b.id b.name)).getD []) [] s t ∧
      ∀ x, transfer = some x → Covers s b x := by
  obtain ⟨balance, found, ⟨-, rfl, rfl⟩ | ⟨negative, debits, u, total, debited, sum, rest⟩⟩ :=
    coverDeficit_cases h
  · exact ⟨Wrote.refl now s, fun _ none => by cases none⟩
  obtain ⟨wrote, parts⟩ := debitSources_ok debited
  have balanced : total.toInt = (debits.map (·.amount.toInt)).sum := by
    simpa [Function.comp_def] using Money.toInt_sum sum
  obtain ⟨nothing, rfl, rfl⟩ | ⟨positive, rfl, entry, credited⟩ := rest
  · rw [debits_eq_nil parts balanced nothing] at wrote
    exact ⟨wrote, fun _ none => by cases none⟩
  · obtain ⟨credit, -⟩ := insertEntry_ok credited
    refine ⟨by simpa [Transfer.writes] using wrote.trans credit, ?_⟩
    rintro x ⟨⟩
    exact {
      deficit := ⟨balance, found, negative, rfl⟩
      debits := parts
      balanced := balanced
      positive := positive }

theorem transferFor_ok {b : Budget} {transfer : Option Transfer}
    (h : (transferFor b now).onStore s = (.ok transfer, t)) :
    Wrote now ((transfer.map (·.writes b.id b.name)).getD []) [] s t ∧
      ∀ x, transfer = some x → Covers s b x := by
  unfold transferFor at h
  split at h
  · exact coverDeficit_ok h
  · cases h
    exact ⟨Wrote.refl now s, fun _ none => by cases none⟩

/-- What paying one budget does: nothing unless it is due, and otherwise what its application
lists. -/
theorem apply_ok {b : Budget} {force : Bool} {application : Option Application}
    (h : (apply b period force).onStore s = (.ok application, t)) :
    Settles period ([b].filter (isDue period force)) application.toList s t ∧
      ∀ a x, application = some a → a.transfer = some x → Covers s b x := by
  rw [apply_eq] at h
  split at h
  · rename_i due
    obtain ⟨transfer, s₁, transferred, h⟩ := (confined_transferFor _ _).onStore_bind_ok.1 h
    obtain ⟨_, s₂, credited, h⟩ := (confined_insertEntry _ _).onStore_bind_ok.1 h
    obtain ⟨_, s₃, marked, h⟩ := (confined_markRun _ _).onStore_bind_ok.1 h
    obtain ⟨rfl, rfl⟩ := LedgerM.onStore_pure_ok.1 h
    obtain ⟨moved, covers⟩ := transferFor_ok transferred
    obtain ⟨credit, -⟩ := insertEntry_ok credited
    obtain ⟨stamp, -⟩ := markRun_ok period.now marked
    rw [List.filter_cons_of_pos due]
    refine ⟨⟨.cons ?_ .nil, ?_⟩, ?_⟩
    · exact {
        positive := (Bool.and_eq_true_iff.1 due).1
        budget := rfl
        name := rfl
        payroll := rfl
        runAt := rfl
        balanced := fun x hx => (covers x hx).balanced }
    · simpa [Application.writes, Application.stamp] using (moved.trans credit).trans stamp
    · rintro a x ⟨⟩ hx
      exact covers x hx
  · rename_i not_due
    obtain ⟨rfl, rfl⟩ := LedgerM.onStore_pure_ok.1 h
    rw [List.filter_cons_of_neg not_due]
    exact ⟨⟨.nil, Wrote.refl period.now s⟩, fun _ _ none => by cases none⟩

theorem Settles.append {due more : List Budget} {report others : List Application} {u : Store}
    (h : Settles period due report s t) (k : Settles period more others t u) :
    Settles period (due ++ more) (report ++ others) s u where
  paid := List.rel_append h.paid k.paid
  wrote := by simpa using h.wrote.trans k.wrote

/-- A run over a list succeeds when it pays the first budget, and then the others. -/
theorem applyAll_cons_ok {b : Budget} {bs : List Budget} {report : List Application} :
    (applyAll period (b :: bs)).onStore s = (.ok report, t) ↔
      ∃ application u others, (apply b period false).onStore s = (.ok application, u) ∧
        (applyAll period bs).onStore u = (.ok others, t) ∧
          report = application.toList ++ others := by
  constructor
  · intro h
    obtain ⟨application, u, applied, h⟩ := (confined_apply _ _ _).onStore_bind_ok.1 h
    obtain ⟨others, v, rest, h⟩ := (confined_applyAll _ _).onStore_bind_ok.1 h
    obtain ⟨rfl, rfl⟩ := LedgerM.onStore_pure_ok.1 h
    exact ⟨application, u, others, applied, rest, rfl⟩
  · rintro ⟨application, u, others, applied, rest, rfl⟩
    exact (confined_apply _ _ _).onStore_bind_ok.2 ⟨application, u, applied,
      (confined_applyAll _ _).onStore_bind_ok.2 ⟨others, t, rest, rfl⟩⟩

/-- What a run over a list of budgets does: it pays those that are due, in their order. -/
theorem applyAll_ok {bs : List Budget} {report : List Application}
    (h : (applyAll period bs).onStore s = (.ok report, t)) :
    Settles period (bs.filter (isDue period false)) report s t := by
  induction bs generalizing report s with
  | nil =>
    obtain ⟨rfl, rfl⟩ := LedgerM.onStore_pure_ok.1 h
    exact ⟨.nil, Wrote.refl period.now s⟩
  | cons b bs ih =>
    obtain ⟨application, s₁, others, applied, applied_rest, rfl⟩ := applyAll_cons_ok.1 h
    have := (apply_ok applied).1.append (ih applied_rest)
    rwa [← List.filter_append] at this

end Paymaster.Payroll
