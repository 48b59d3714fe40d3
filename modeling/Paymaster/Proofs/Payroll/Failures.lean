import Paymaster.Proofs.Allocation.Words
import Paymaster.Proofs.AutoBalance.Checks
import Paymaster.Proofs.Calendar.Readings
import Paymaster.Proofs.Payroll.Deficits
import Paymaster.Proofs.Payroll.NoTrace

/-
  How a run of payroll may fail.
  A run makes many calls that check what they are given: amounts must be positive, budgets must
  exist, sums must not leave the 64-bit range. None of these checks ever refuses what a run gives
  them. Shares are at most the deficit, so they and their sum are amounts (`part_le_deficit`,
  `exists_sum`); what is credited or debited is positive; and a run pays only budgets that it has
  read in the same transaction. So an operation of a run fails for no cause but the database's
  (`LedgerM.Reliable`, proved along the steps of a run up to `reliable_work`), or because the month
  has no start.

  The arithmetic that the definitions leave exact stays within its words, too
  (`allocateWords_sourcesOf`, `Period.containingReadings_eq`). `fails_only_foreseen` says all of it.
-/

namespace Paymaster

/-- The database is the cause. -/
def Failure.IsDatabase (failure : Failure) : Prop := ∃ cause, failure = .error (.database cause)

namespace LedgerM

variable {α β : Type} {m : LedgerM α} {s : Store}

/-- On this store the operation fails for no cause but the database's. -/
def Reliable (m : LedgerM α) (s : Store) : Prop :=
  ∀ failure t, m.onStore s = (.error failure, t) → failure.IsDatabase

theorem reliable_pure (a : α) (s : Store) : Reliable (pure a) s := nofun

theorem reliable_of_ok {a : α} {t : Store} (h : m.onStore s = (.ok a, t)) : Reliable m s := by
  intro failure u failed
  rw [h] at failed
  cases failed

theorem reliable_statement (f : Store.Statement α) (s : Store) : Reliable (statement f) s := by
  intro failure t failed
  rw [onStore_statement] at failed
  rcases answer : f s with cause | ⟨a, u⟩ <;> rw [answer] at failed <;> cases failed
  exact ⟨cause, rfl⟩

theorem reliable_query (f : Store → α) (s : Store) : Reliable (query f) s := reliable_statement _ s

theorem reliable_checked {found : Except Overflow α} {a : α} (h : found = .ok a) (s : Store) :
    Reliable (checked found) s := by
  rw [h]
  exact reliable_pure a s

/-- A sequence is reliable if its first part is, and the second on whatever the first leaves. -/
theorem Reliable.bind {k : α → LedgerM β} (h : Reliable m s) (confined : Confined m)
    (hk : ∀ a t, m.onStore s = (.ok a, t) → Reliable (k a) t) : Reliable (m >>= k) s := by
  intro failure u failed
  rw [confined.onStore_bind] at failed
  rcases ran : m.onStore s with ⟨cause | a, t⟩ <;> rw [ran] at failed
  · cases failed
    exact h failure u ran
  · exact hk a t ran failure u failed

/-- What is made of a result cannot fail. -/
theorem Reliable.bind_pure (h : Reliable m s) (confined : Confined m) (f : α → β) :
    Reliable (m >>= fun a => pure (f a)) s :=
  h.bind confined fun _ t _ => reliable_pure _ t

/-- A transaction around a reliable operation is reliable in any database. -/
theorem Reliable.transaction (confined : Confined m) {db db' : Database}
    (h : ∀ s, db.store? = some s → Reliable m s) {failure : Failure}
    (failed : m.transaction.run db = (.error failure, db')) : failure.IsDatabase := by
  cases db with
  | live s =>
    rw [confined.run_transaction] at failed
    rcases ran : m.onStore s.store with ⟨cause | a, t⟩ <;> rw [ran] at failed <;> cases failed
    exact h s.store rfl failure t ran
  | disconnected =>
    rw [run_transaction_of_refusal m rfl] at failed
    cases failed
    exact ⟨_, rfl⟩
  | closed =>
    rw [run_transaction_of_refusal m rfl] at failed
    cases failed
    exact ⟨_, rfl⟩

end LedgerM

namespace Money

/-- Amounts that are not negative have a sum if it is an amount. -/
theorem exists_foldlM_add {ms : List Money} (nonneg : ∀ m ∈ ms, 0 ≤ m.toInt) {start : Money}
    (least : 0 ≤ start.toInt) (fits : Fits (start.toInt + (ms.map toInt).sum)) :
    ∃ total, ms.foldlM add start = .ok total := by
  induction ms generalizing start with
  | nil => exact ⟨start, rfl⟩
  | cons m ms ih =>
    obtain ⟨first, others⟩ := List.forall_mem_cons.1 nonneg
    have rest : 0 ≤ (ms.map toInt).sum := List.sum_nonneg fun n hn => by
      obtain ⟨k, hk, rfl⟩ := List.mem_map.1 hn
      exact others k hk
    have lowest : Int64.minValue.toInt = -9223372036854775808 := rfl
    rw [List.map_cons, List.sum_cons] at fits
    have partly : Fits (start.toInt + m.toInt) := by
      unfold Fits at *
      omega
    obtain ⟨next, sum⟩ := Option.isSome_iff_exists.1 (isSome_ofInt?_iff.2 partly)
    have value := toInt_of_ofInt? sum
    have added : add start m = .ok next := by rw [add, sum]
    rw [List.foldlM_cons, added]
    exact ih others (by omega) (by rwa [value, Int.add_assoc])

theorem exists_sum {ms : List Money} (nonneg : ∀ m ∈ ms, 0 ≤ m.toInt)
    (fits : Fits (ms.map toInt).sum) : ∃ total, sum ms = .ok total :=
  exists_foldlM_add nonneg (Int.le_refl 0) (by rwa [toInt_zero, Int.zero_add])

end Money

namespace Payroll

open Ledger LedgerM

variable {now : Instant} {period : Period} {b : Budget} {s t : Store}

/-! ## Writing -/

theorem reliable_insertEntry {amount : Money} (positive : amount.isPositive) (id : BudgetId)
    (description : String) (direction : Direction) (now : Instant) (s : Store) :
    Reliable (insertEntry (.system id description direction amount) now) s := by
  have checked : (NewEntry.system id description direction amount).amount.isPositive := positive
  rw [insertEntry, if_pos checked]
  exact reliable_statement _ s

theorem reliable_markRun {id : BudgetId} (present : s.hasBudget id) (runAt : Instant) :
    Reliable (markRun id runAt) s := by
  intro failure t failed
  have answer := answer_markRun id runAt s
  rw [failed, if_pos present] at answer
  cases answer

/-- Parts that are amounts can be debited. -/
theorem reliable_debitSources (description : String) (now : Instant)
    {parts : List (BudgetId × Int)} (fit : ∀ p ∈ parts, Money.Fits p.2) (s : Store) :
    Reliable (debitSources description now parts) s := by
  induction parts generalizing s with
  | nil => exact reliable_pure _ s
  | cons part parts ih =>
    obtain ⟨source, cents⟩ := part
    obtain ⟨first, others⟩ := List.forall_mem_cons.1 fit
    rw [debitSources]
    split
    · exact ih others s
    · rename_i something
      obtain ⟨amount, value⟩ := Option.isSome_iff_exists.1 (Money.isSome_ofInt?_iff.2 first)
      have positive : amount.isPositive := by
        rw [Money.isPositive, Money.toInt_of_ofInt? value]
        exact decide_eq_true (Int.not_le.1 something)
      rw [value]
      dsimp only
      rw [pure_bind]
      refine (reliable_insertEntry positive _ _ _ now s).bind (confined_insertEntry _ _)
        fun _ t _ => ?_
      exact (ih others t).bind_pure (confined_debitSources _ _ _) _

/-! ## Covering a deficit -/

/-- A share is no more than the deficit. -/
theorem part_le_deficit {deficit : Money} (owing : 0 < deficit.toInt) {edges : List Edge}
    {p : BudgetId × Int} (hp : p ∈ shares deficit edges) : 0 ≤ p.2 ∧ p.2 ≤ deficit.toInt := by
  have part := (List.of_mem_zip hp).2
  by_cases weighty : 0 < Allocation.totalWeight (edges.map (·.weight.toInt))
  · have divides := Allocation.divides_allocate owing weighty
    have most := List.single_le_sum divides.nonneg _ part
    rw [divides.sum] at most
    exact ⟨divides.nonneg _ part, most⟩
  · rw [Allocation.allocate, if_pos (.inr (Int.not_lt.1 weighty))] at part
    obtain ⟨_, -, zero⟩ := List.mem_map.1 part
    rw [← zero]
    exact ⟨Int.le_refl 0, Int.le_of_lt owing⟩

/-- What the sources of a deficit were debited has a sum. -/
theorem exists_total {debits : List SourceDebit} {deficit : Money}
    (listed : debits.map (fun d => (d.source, d.amount.toInt)) =
      (shares deficit (s.sourcesOf b.id)).filter (0 < ·.2))
    (owing : 0 < deficit.toInt) : ∃ total, Money.sum (debits.map (·.amount)) = .ok total := by
  have amounts : (debits.map (·.amount)).map Money.toInt = debits.map (·.amount.toInt) := by
    rw [List.map_map]
    rfl
  have nonneg : ∀ m ∈ debits.map (·.amount), 0 ≤ m.toInt := fun m hm => by
    obtain ⟨d, hd, rfl⟩ := List.mem_map.1 hm
    exact Int.le_of_lt (debit_pos listed hd)
  refine Money.exists_sum nonneg ?_
  rw [amounts]
  by_cases backed : IsBacked b s
  · rw [sum_debits listed owing backed]
    exact Money.fits_toInt deficit
  · rw [positive_shares_eq_nil backed] at listed
    rw [List.map_eq_nil_iff.1 listed]
    exact Money.fits_toInt .zero

theorem reliable_coverDeficit (b : Budget) (now : Instant) (s : Store) :
    Reliable (coverDeficit b now) s := by
  refine (reliable_statement _ s).bind (confined_currentBalance _) fun balance t _ => ?_
  split
  · exact reliable_pure _ t
  rename_i negative
  have owing := (Money.toInt_abs (by simpa using negative)).2
  refine (reliable_query _ t).bind (confined_sourcesOf _) fun sources u read => ?_
  rw [onStore_query] at read
  cases read
  have fit : ∀ p ∈ shares balance.abs (t.sourcesOf b.id), Money.Fits p.2 := fun p hp => by
    have bounds := part_le_deficit owing hp
    have fits := Money.fits_toInt balance.abs
    have lowest : Int64.minValue.toInt = -9223372036854775808 := rfl
    unfold Money.Fits at *
    omega
  refine (reliable_debitSources _ now fit t).bind (confined_debitSources _ _ _)
    fun debits v debited => ?_
  obtain ⟨total, sum⟩ := exists_total (debitSources_ok debited).2 owing
  refine (reliable_checked sum v).bind (confined_checked _) fun total w _ => ?_
  split
  · exact reliable_pure _ w
  · rename_i positive
    have credit : total.isPositive := by simpa using positive
    exact (reliable_insertEntry credit _ _ _ now w).bind_pure (confined_insertEntry _ _) _

theorem reliable_transferFor (b : Budget) (now : Instant) (s : Store) :
    Reliable (transferFor b now) s := by
  unfold transferFor
  split
  · exact reliable_coverDeficit b now s
  · exact reliable_pure _ s

/-! ## Paying -/

theorem reliable_apply (present : s.hasBudget b.id) (period : Period) (force : Bool) :
    Reliable (apply b period force) s := by
  rw [apply_eq]
  split
  · rename_i due
    have positive : b.payroll.isPositive := (Bool.and_eq_true_iff.1 due).1
    refine (reliable_transferFor b _ s).bind (confined_transferFor _ _) fun x t moved => ?_
    refine (reliable_insertEntry positive _ _ _ _ t).bind (confined_insertEntry _ _)
      fun r u credited => ?_
    have still : u.hasBudget b.id := by
      rwa [(insertEntry_ok credited).1.hasBudget, (transferFor_ok moved).1.hasBudget]
    exact (reliable_markRun still _).bind_pure (confined_markRun _ _) _
  · exact reliable_pure _ s

theorem reliable_applyAll (period : Period) {bs : List Budget}
    (present : ∀ b ∈ bs, s.hasBudget b.id) : Reliable (applyAll period bs) s := by
  induction bs generalizing s with
  | nil => exact reliable_pure _ s
  | cons b bs ih =>
    obtain ⟨first, others⟩ := List.forall_mem_cons.1 present
    refine (reliable_apply first period false).bind (confined_apply _ _ _) fun a t applied => ?_
    have still : ∀ b ∈ bs, t.hasBudget b.id := fun c hc => by
      rw [(apply_ok applied).1.wrote.hasBudget]
      exact others c hc
    exact (ih still).bind_pure (confined_applyAll _ _) _

/-! ## Runs -/

/-- A run for one budget is for a budget of the store. -/
def Run.IsFor (s : Store) : Run → Prop
  | .monthly => True
  | .single id _ _ => s.hasBudget id

/-- A run for one budget has an actor who may act on it. -/
def Run.IsGranted (db : Database) : Run → Prop
  | .monthly => True
  | .single id actor _ => ((ensureAccess id actor).run db).1 = .ok ()

theorem reliable_work {r : Run} (present : r.IsFor s) (period : Period) :
    Reliable (r.work period) s := by
  cases r with
  | monthly =>
    refine (reliable_query _ s).bind (confined_query _) fun pending t read => ?_
    rw [onStore_query] at read
    cases read
    refine reliable_applyAll period fun b hb => ?_
    have row : s.budget? b.id = some b :=
      Store.budget?_eq_some_iff.2 ⟨(List.mem_filter.1 hb).1, rfl⟩
    rw [Store.hasBudget, row]
    rfl
  | single id actor force =>
    obtain ⟨b, row⟩ := Option.isSome_iff_exists.1 (show (s.budget? id).isSome from present)
    have locked : (lockBudget id).onStore s = (.ok b, s) := by rw [onStore_lockBudget, row]
    refine (reliable_of_ok locked).bind (confined_lockBudget id) fun c t read => ?_
    rw [locked] at read
    cases read
    have here : s.hasBudget b.id := by
      rw [(Store.budget?_eq_some_iff.1 row).2]
      exact present
    exact (reliable_apply here period force).bind_pure (confined_apply _ _ _) _

/-- A failure that a run may end in: there is no start of the month, or the database is the
cause. -/
inductive Foreseen : Failure → Prop
  | schedule (cause : ScheduleError) : Foreseen (.error (.schedule cause))
  | database (cause : DbError) : Foreseen (.error (.database cause))

theorem foreseen_of_isDatabase {failure : Failure} (h : failure.IsDatabase) : Foreseen failure := by
  obtain ⟨cause, rfl⟩ := h
  exact .database cause

section
variable {z : Zone} {db db' : Database} {failure : Failure}

theorem foreseen_of_scheduled {α : Type} {found : Except ScheduleError α}
    (failed : (scheduled found).run db = (.error failure, db')) : Foreseen failure := by
  cases found <;> cases failed
  exact .schedule _

theorem foreseen_of_opening {r : Run} (granted : r.IsGranted db)
    (failed : (r.opening z now).run db = (.error failure, db')) : Foreseen failure := by
  cases r with
  | monthly => exact foreseen_of_scheduled failed
  | single id actor force =>
    rw [Run.opening, run_bind] at failed
    rcases access : (ensureAccess id actor).run db with ⟨cause | _, db₁⟩ <;>
      rw [access] at failed
    · rw [Run.IsGranted, access] at granted
      cases granted
    · exact foreseen_of_scheduled failed

theorem foreseen_of_report {r : Run} (present : ∀ s, db.store? = some s → r.IsFor s)
    (granted : r.IsGranted db) (failed : (r.report z now).run db = (.error failure, db')) :
    Foreseen failure := by
  rw [Run.report_eq, run_bind] at failed
  have same := r.reads_opening z now db
  rcases opened : (r.opening z now).run db with ⟨cause | period, db₁⟩ <;>
    rw [opened] at failed same
  · cases failed
    exact foreseen_of_opening granted opened
  · obtain rfl : db₁ = db := same
    exact foreseen_of_isDatabase (Reliable.transaction (r.confined_work period)
      (fun s stored => reliable_work (present s stored) period) failed)

end

/-! ## Arithmetic in words -/

/-- A budget has no more sources than there are words of 64 bits, since it lists each once. -/
theorem length_sourcesOf_le (s : Store) (id : BudgetId) : (s.sourcesOf id).length ≤ 2 ^ 64 := by
  have once : ((s.sourcesOf id).map (·.source)).Nodup :=
    nodup_of_ascending (List.pairwise_map.2 (AutoBalance.ascending_sourcesOf s id))
  have words : Function.Injective fun id : Int64 => id.toBitVec.toFin := fun a b same =>
    Int64.toBitVec_inj.1 (BitVec.toFin_inj.1 same)
  have number := (once.map words).length_le_card
  rwa [List.length_map, List.length_map, Fintype.card_fin] at number

/-- The sources of a budget pay their shares of any deficit as machine words compute them, and no
number has to be replaced on the way. -/
theorem allocateWords_sourcesOf (strict : Bool) (s : Store) (id : BudgetId) (deficit : Money) :
    Allocation.allocateWords strict deficit.cents ((s.sourcesOf id).map (·.weight)) =
      some ((shares deficit (s.sourcesOf id)).map (·.2)) := by
  have few : ((s.sourcesOf id).map (·.weight)).length ≤ 2 ^ 64 := by
    rw [List.length_map]
    exact length_sourcesOf_le s id
  rw [Allocation.allocateWords_eq strict deficit.cents few, List.map_map, map_snd_shares]
  rfl

/-- The monthly run, and the run for a budget that exists once access is granted, fail for no cause
but that the month has no start or that of the database. What sources pay of a deficit and the
period of a run are computed without leaving the words and dates of a machine. -/
theorem fails_only_foreseen (z : Zone) (now : Instant) :
    (∀ db db' failure, (monthlyReport z now).run db = (.error failure, db') → Foreseen failure) ∧
    (∀ id actor force db db' failure, (∀ s, db.store? = some s → s.hasBudget id) →
      ((ensureAccess id actor).run db).1 = .ok () →
      (runBudget id actor z now force).run db = (.error failure, db') → Foreseen failure) ∧
    (∀ strict (s : Store) id (deficit : Money),
      Allocation.allocateWords strict deficit.cents ((s.sourcesOf id).map (·.weight)) =
        some ((shares deficit (s.sourcesOf id)).map (·.2))) ∧
    Period.containingReadings z now = some (Period.containing z now) := by
  refine ⟨fun db db' failure failed => ?_,
    fun id actor force db db' failure present granted failed => ?_,
    allocateWords_sourcesOf, Period.containingReadings_eq z now⟩
  · exact foreseen_of_report (r := .monthly) (fun _ _ => trivial) trivial failed
  · have counted := Run.run_count z now (.single id actor force) db
    rcases ran : ((Run.single id actor force).report z now).run db with ⟨cause | report, db₁⟩ <;>
      rw [ran] at counted <;> cases failed.symm.trans counted
    exact foreseen_of_report (r := .single id actor force) present granted ran

/-- The store takes no entry for the second budget, so a run for it fails. A monthly run fails where
a local clock has passed the end of the last year. Both are foreseen. -/
theorem fails_only_foreseen_halfRejected :
    (∃ db, (runBudget 2 none .utc noon false).run (.live { store := halfRejected }) =
        (.error (.error (.database Store.entryRejected)), db)) ∧
      Foreseen (.error (.database Store.entryRejected)) ∧
    (∃ db, (monthlyReport (.fixed 3600) .last).run (.live { store := halfRejected }) =
        (.error (.error (.schedule (.noFirstDay 262143 1))), db)) ∧
      Foreseen (.error (.schedule (.noFirstDay 262143 1))) := by
  have one : ((runBudget 2 none .utc noon false).run (.live { store := halfRejected })).1 =
      .error (.error (.database Store.entryRejected)) := by decide +kernel
  have every : ((monthlyReport (.fixed 3600) .last).run (.live { store := halfRejected })).1 =
      .error (.error (.schedule (.noFirstDay 262143 1))) := by decide +kernel
  rcases ranOne : (runBudget 2 none .utc noon false).run (.live { store := halfRejected }) with
    ⟨answer, after⟩
  rcases ranEvery : (monthlyReport (.fixed 3600) .last).run (.live { store := halfRejected }) with
    ⟨answers, afterwards⟩
  rw [ranOne] at one
  rw [ranEvery] at every
  obtain rfl := one
  obtain rfl := every
  refine ⟨⟨after, rfl⟩, ?_, ⟨afterwards, rfl⟩, (fails_only_foreseen _ _).1 _ _ _ ranEvery⟩
  refine (fails_only_foreseen _ _).2.1 2 none false _ after _ (fun s same => ?_) rfl ranOne
  obtain rfl : halfRejected = s := Option.some.inj same
  decide

end Payroll

end Paymaster
