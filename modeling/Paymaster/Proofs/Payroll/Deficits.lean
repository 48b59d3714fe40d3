import Paymaster.Proofs.Allocation.Shares
import Paymaster.Proofs.Ledger.Balances
import Paymaster.Proofs.Payroll.Conservation
import Paymaster.Proofs.Payroll.Footprint

/-
  Deficits and what covers them.
  The positive shares of a deficit make it up as soon as one source has weight
  (`sum_positive_shares`), so a budget that is in debt and is backed gets a transfer of its whole
  deficit, stands at zero when its payroll is credited, and comes to its payroll
  (`relieves_of_apply`). The least amount is the exception: its magnitude is one cent more than the
  greatest amount, the deficit stops at that, and the cent is missing (`least_not_cleared`). A
  budget that is not in debt, or draws on nobody with weight, gets nothing but its payroll
  (`entries_of_not_isCovered`). Both are said of every payment in `apply_clears_deficit`.
-/

namespace Paymaster

namespace Money

/-- The least amount, whose magnitude is not an amount. -/
def least : Money := ⟨Int64.minValue⟩

theorem toInt_least : least.toInt = -9223372036854775808 := rfl

/-- What is left of a negative amount when its magnitude, as an amount, is added to it. -/
def rest (m : Money) : Money := if m = least then ⟨-1⟩ else zero

theorem toInt_abs {m : Money} (negative : m.isNegative) :
    m.abs.toInt = m.rest.toInt - m.toInt ∧ 0 < m.abs.toInt := by
  simp only [isNegative, decide_eq_true_eq] at negative
  have fits := fits_toInt m
  have lowest : Int64.minValue.toInt = -9223372036854775808 := rfl
  have greatest : Int64.maxValue.toInt = 9223372036854775807 := rfl
  have magnitude : (m.toInt.natAbs : Int) = -m.toInt := by omega
  unfold Fits at fits
  unfold abs rest
  by_cases extreme : m = least
  · subst extreme
    decide
  · have inner : m.toInt ≠ least.toInt := fun same => extreme (toInt_injective same)
    rw [toInt_least] at inner
    have opposite : Fits (-m.toInt) := by
      unfold Fits
      omega
    obtain ⟨n, found⟩ := Option.isSome_iff_exists.1 (isSome_ofInt?_iff.2 opposite)
    have value := toInt_of_ofInt? found
    rw [if_neg extreme, magnitude, found, Option.getD_some, value, toInt_zero]
    omega

/-- A positive amount can be added to what is left. -/
theorem fits_rest_add (m : Money) {n : Money} (positive : n.isPositive) :
    Fits (m.rest.toInt + n.toInt) := by
  simp only [isPositive, decide_eq_true_eq] at positive
  have fits := fits_toInt n
  have lowest : Int64.minValue.toInt = -9223372036854775808 := rfl
  have left : -1 ≤ m.rest.toInt ∧ m.rest.toInt ≤ 0 := by
    unfold rest
    split <;> decide
  unfold Fits at *
  omega

end Money

namespace Payroll

open Ledger

/-! ## The shares of a deficit -/

theorem sum_filter_pos {l : List Int} (nonneg : ∀ n ∈ l, 0 ≤ n) :
    (l.filter (0 < ·)).sum = l.sum := by
  induction l with
  | nil => rfl
  | cons n l ih =>
    have rest := ih fun k hk => nonneg k (List.mem_cons_of_mem _ hk)
    have least := nonneg n List.mem_cons_self
    by_cases positive : 0 < n
    · simp [positive, rest]
    · obtain rfl : n = 0 := by omega
      simpa using rest

section
variable {deficit : Money} {edges : List Edge}

theorem map_snd_shares (deficit : Money) (edges : List Edge) : (shares deficit edges).map (·.2) =
    Allocation.allocate deficit.toInt (edges.map (·.weight.toInt)) :=
  List.map_snd_zip (by simp [Allocation.length_allocate])

/-- The positive shares of a deficit make it up, if somebody has weight. -/
theorem sum_positive_shares (owing : 0 < deficit.toInt)
    (weighty : ∃ e ∈ edges, 0 < e.weight.toInt) :
    (((shares deficit edges).filter (0 < ·.2)).map (·.2)).sum = deficit.toInt := by
  obtain ⟨e, he, positive⟩ := weighty
  have total : 0 < Allocation.totalWeight (edges.map (·.weight.toInt)) :=
    Allocation.totalWeight_pos_iff.2 ⟨_, List.mem_map.2 ⟨e, he, rfl⟩, positive⟩
  have divides := Allocation.divides_allocate owing total
  calc (((shares deficit edges).filter (0 < ·.2)).map (·.2)).sum
      = (((shares deficit edges).map (·.2)).filter (0 < ·)).sum := by
        rw [List.filter_map]
        rfl
    _ = deficit.toInt := by rw [map_snd_shares, sum_filter_pos divides.nonneg, divides.sum]

/-- Without weight nobody has a share. -/
theorem positive_shares_eq_nil (idle : ¬∃ e ∈ edges, 0 < e.weight.toInt) :
    (shares deficit edges).filter (0 < ·.2) = [] := by
  refine List.filter_eq_nil_iff.2 fun p hp pays => ?_
  obtain ⟨e, he, -, weighty⟩ := exists_edge_of_mem_shares hp (of_decide_eq_true pays)
  exact idle ⟨e, he, weighty⟩

end

/-! ## Whether there is a transfer -/

section
variable {b : Budget} {now : Instant} {s t : Store}

/-- The budget draws on a source with weight. -/
def IsBacked (b : Budget) (s : Store) : Prop := ∃ e ∈ s.sourcesOf b.id, 0 < e.weight.toInt

/-- The budget is in debt, and it draws on a source with weight. -/
def IsCovered (b : Budget) (s : Store) : Prop :=
  (∃ balance, s.balance b.id = .ok balance ∧ balance.isNegative) ∧ IsBacked b s

/-- A deficit that is backed is debited in full. -/
theorem sum_debits {debits : List SourceDebit} {deficit : Money}
    (listed : debits.map (fun d => (d.source, d.amount.toInt)) =
      (shares deficit (s.sourcesOf b.id)).filter (0 < ·.2))
    (owing : 0 < deficit.toInt) (backed : IsBacked b s) :
    (debits.map (·.amount.toInt)).sum = deficit.toInt := by
  have parts := congrArg (fun ps => (ps.map Prod.snd).sum) listed
  rw [sum_positive_shares owing backed, List.map_map] at parts
  exact parts

theorem Covers.isBacked {x : Transfer} (h : Covers s b x) : IsBacked b s := by
  by_contra idle
  have nobody := h.debits
  rw [positive_shares_eq_nil idle] at nobody
  have balanced := h.balanced
  rw [Transfer.Balanced, List.map_eq_nil_iff.1 nobody] at balanced
  have positive := h.positive
  simp [Money.isPositive, balanced] at positive

theorem Covers.isCovered {x : Transfer} (h : Covers s b x) : IsCovered b s := by
  obtain ⟨balance, found, negative, -⟩ := h.deficit
  exact ⟨⟨balance, found, negative⟩, h.isBacked⟩

/-- A deficit that is backed is never passed over. -/
theorem not_isCovered_of_coverDeficit_none (h : (coverDeficit b now).onStore s = (.ok none, t)) :
    ¬IsCovered b s := by
  rintro ⟨⟨balance, found, negative⟩, backed⟩
  obtain ⟨read, same, solvent | ⟨-, debits, u, total, debited, sum, rest⟩⟩ := coverDeficit_cases h
  all_goals obtain rfl : balance = read := Except.ok.inj (found.symm.trans same)
  · exact solvent.1 negative
  have owing := (Money.toInt_abs negative).2
  have whole : total.toInt = balance.abs.toInt := by
    rw [← sum_debits (debitSources_ok debited).2 owing backed]
    simpa [Function.comp_def] using Money.toInt_sum sum
  have positive : total.isPositive := by
    rw [Money.isPositive, whole]
    exact decide_eq_true owing
  obtain ⟨nothing, -⟩ | ⟨-, absurd, -⟩ := rest
  · exact nothing positive
  · cases absurd

theorem onStore_debitSources_of_none {description : String} {parts : List (BudgetId × Int)}
    (none : parts.filter (0 < ·.2) = []) :
    (debitSources description now parts).onStore s = (.ok [], s) := by
  induction parts with
  | nil => rfl
  | cons part parts ih =>
    obtain ⟨first, rest⟩ := List.forall_mem_cons.1 (List.filter_eq_nil_iff.1 none)
    rw [debitSources, if_pos (Int.not_lt.1 (by simpa using first))]
    exact ih (List.filter_eq_nil_iff.2 rest)

/-- Where no deficit is covered nothing is written, whatever comes of it. -/
theorem coverDeficit_of_not_isCovered (idle : ¬IsCovered b s) :
    ((coverDeficit b now).onStore s).2 = s := by
  rw [coverDeficit, (confined_currentBalance _).onStore_bind, currentBalance,
    LedgerM.onStore_statement]
  rcases found : s.balance b.id with cause | balance
  · rfl
  dsimp only
  by_cases negative : balance.isNegative
  · have nobody : (shares balance.abs (s.sourcesOf b.id)).filter (0 < ·.2) = [] :=
      positive_shares_eq_nil fun backed => idle ⟨⟨balance, found, negative⟩, backed⟩
    rw [if_neg (by simp [negative]), (confined_sourcesOf _).onStore_bind, sourcesOf,
      LedgerM.onStore_query]
    dsimp only
    rw [(confined_debitSources _ _ _).onStore_bind, onStore_debitSources_of_none nobody]
    rfl
  · rw [if_pos (by simp [negative])]
    rfl

/-! ## Balances once something is written -/

/-- Of the records of new entries those for a budget are the records of its entries. -/
theorem filter_records (id : BudgetId) (now : Instant) (last : Int64) (news : List NewEntry) :
    List.Forall₂ (fun r n => ∃ i, r = n.record now i)
      ((NewEntry.records now last news).filter (·.budget = id)) (news.filter (·.budget = id)) := by
  induction news generalizing last with
  | nil => exact .nil
  | cons n news ih =>
    have same : (n.record now (last + 1)).budget = n.budget := rfl
    rw [NewEntry.records, List.filter_cons, List.filter_cons, same]
    split
    · exact .cons ⟨_, rfl⟩ (ih _)
    · exact ih _

/-- One new entry for a budget is added to its balance. -/
theorem balance_of_wrote {news : List NewEntry} {stamps : List (BudgetId × Instant)}
    (h : Wrote now news stamps s t) {id : BudgetId} {n : NewEntry}
    (one : news.filter (·.budget = id) = [n]) {before after : Money}
    (known : s.balance id = .ok before) (sum : after.toInt = before.toInt + signed n) :
    t.balance id = .ok after := by
  have added := filter_records id now s.lastEntry news
  rw [one] at added
  obtain ⟨r, rs, ⟨i, rfl⟩, none, listed⟩ := List.forall₂_cons_right_iff.1 added
  obtain rfl := List.forall₂_nil_right_iff.1 none
  have entries : t.entriesOf id = s.entriesOf id ++ [n.record now i] := by
    rw [Store.entriesOf, h.entries, List.filter_append, listed, Store.entriesOf]
  have step : Entry.addExactly before (n.record now i) = some after := by
    rw [Entry.addExactly, Money.ofInt?_eq_some_iff, sum]
    cases n with | mk b actor d direction m => cases direction <;> rfl
  rw [Store.balance_eq_ok_iff] at known ⊢
  rw [entries, List.foldlM_append, known]
  simpa using step

/-! ## Payments -/

/-- A budget that is paid first gets its transfer, then its payroll and its marker. -/
theorem apply_steps {period : Period} {force : Bool} {a : Application}
    (h : (apply b period force).onStore s = (.ok (some a), t)) :
    b.payroll.isPositive ∧ ∃ u, (transferFor b period.now).onStore s = (.ok a.transfer, u) ∧
      Wrote period.now [.system b.id period.description .credit b.payroll] [a.stamp] u t := by
  rw [apply_eq] at h
  split at h
  · rename_i due
    obtain ⟨transfer, u, moved, h⟩ := (confined_transferFor _ _).onStore_bind_ok.1 h
    obtain ⟨_, v, credited, h⟩ := (confined_insertEntry _ _).onStore_bind_ok.1 h
    obtain ⟨_, w, marked, h⟩ := (confined_markRun _ _).onStore_bind_ok.1 h
    obtain ⟨same, rfl⟩ := LedgerM.onStore_pure_ok.1 h
    cases same
    exact ⟨(Bool.and_eq_true_iff.1 due).1, u, moved,
      (insertEntry_ok credited).1.trans (markRun_ok period.now marked).1⟩
  · obtain ⟨absurd, -⟩ := LedgerM.onStore_pure_ok.1 h
    cases absurd

end

/-- The payment `a` of the budget `b` moved the transfer `x` to it, so that of the debt `balance`
only `rest` was left in the store `u`, and then its payroll was credited. -/
structure Relieves (period : Period) (b : Budget) (balance rest : Money) (a : Application)
    (x : Transfer) (s u t : Store) : Prop where
  deficit : x.deficit.toInt = rest.toInt - balance.toInt
  total : x.total = x.deficit
  debits : (x.debits.map (·.amount.toInt)).sum = x.total.toInt
  moved : Wrote period.now (x.writes b.id b.name) [] s u
  before : u.balance b.id = .ok rest
  credited : Wrote period.now [.system b.id period.description .credit b.payroll] [a.stamp] u t
  after : ∃ balance, t.balance b.id = .ok balance ∧ balance.toInt = rest.toInt + b.payroll.toInt

section
variable {b : Budget} {period : Period} {force : Bool} {a : Application} {s t : Store}

/-- Of the entries of a transfer only its credit is for the budget itself, unless it draws on
itself. -/
theorem Covers.filter_writes {x : Transfer} (h : Covers s b x)
    (apart : ∀ e ∈ s.sourcesOf b.id, e.source ≠ b.id) :
    (x.writes b.id b.name).filter (·.budget = b.id) =
      [.system b.id (transferDescription b.name) .credit x.total] := by
  have others : (x.debits.map (·.write (transferDescription b.name))).filter
      (·.budget = b.id) = [] := by
    refine List.filter_eq_nil_iff.2 fun n hn here => ?_
    obtain ⟨d, hd, rfl⟩ := List.mem_map.1 hn
    obtain ⟨e, he, target, source, -⟩ := h.drawsOn hd
    refine apart e (List.mem_filter.2 ⟨he, decide_eq_true target⟩) ?_
    exact source.trans (of_decide_eq_true here)
  rw [Transfer.writes, List.filter_append, others]
  simp [NewEntry.system]

theorem relieves_of_apply (h : (apply b period force).onStore s = (.ok (some a), t))
    (asks : b.autoBalance) {balance : Money} (known : s.balance b.id = .ok balance)
    (negative : balance.isNegative) (apart : ∀ e ∈ s.sourcesOf b.id, e.source ≠ b.id)
    (backed : IsBacked b s) :
    ∃ x u, a.transfer = some x ∧ Relieves period b balance balance.rest a x s u t := by
  obtain ⟨positive, u, moved, credited⟩ := apply_steps h
  rw [transferFor, if_pos asks] at moved
  rcases transfer : a.transfer with _ | x <;> rw [transfer] at moved
  · exact absurd ⟨⟨balance, known, negative⟩, backed⟩ (not_isCovered_of_coverDeficit_none moved)
  obtain ⟨wrote, covers⟩ := coverDeficit_ok moved
  have covers := covers x rfl
  obtain ⟨found, same, -, deficit⟩ := covers.deficit
  obtain rfl : balance = found := Except.ok.inj (known.symm.trans same)
  obtain ⟨magnitude, owing⟩ := Money.toInt_abs negative
  rw [← deficit] at magnitude owing
  have total : x.total = x.deficit :=
    Money.toInt_injective (covers.balanced.trans (sum_debits covers.debits owing backed))
  have before : u.balance b.id = .ok balance.rest := by
    refine balance_of_wrote wrote (covers.filter_writes apart) known ?_
    show _ = balance.toInt + x.total.toInt
    rw [total, magnitude]
    omega
  obtain ⟨after, sum⟩ := Option.isSome_iff_exists.1
    (Money.isSome_ofInt?_iff.2 (balance.fits_rest_add positive))
  have value := Money.toInt_of_ofInt? sum
  have payroll : [NewEntry.system b.id period.description .credit b.payroll].filter
      (·.budget = b.id) = [.system b.id period.description .credit b.payroll] := by
    simp [NewEntry.system]
  exact ⟨x, u, rfl, {
    deficit := magnitude
    total := total
    debits := covers.balanced.symm
    moved := wrote
    before := before
    credited := credited
    after := ⟨after, balance_of_wrote credited payroll before value, value⟩ }⟩

/-- The credit of a payroll and its marker put one entry into the ledger at most. -/
theorem entries_credit (e : NewEntry) (now : Instant) (id : BudgetId) (runAt : Instant)
    (answer : Option Application) (s : Store) :
    let credit : LedgerM (Option Application) := do
      let _ ← insertEntry e now
      markRun id runAt
      pure answer
    (credit.onStore s).2.entries = s.entries ∨
      ∃ i, (credit.onStore s).2.entries = s.entries ++ [e.record now i] := by
  intro credit
  rw [(confined_insertEntry _ _).onStore_bind]
  have outcome := onStore_insertEntry e now s
  split at outcome
  · rw [outcome]
    exact .inl rfl
  · obtain ⟨r, t, done⟩ := outcome
    have marked := wrote_markRun now id runAt t
    rw [done]
    dsimp only
    rw [(confined_markRun _ _).onStore_bind_pure]
    refine .inr ⟨s.lastEntry + 1, ?_⟩
    rw [marked.entries, (insertEntry_ok done).1.entries, NewEntry.records, NewEntry.records,
      NewEntry.records, List.append_nil]

/-- Where no deficit is covered nothing is written but the payroll, whatever comes of it. -/
theorem entries_of_not_isCovered (idle : ¬IsCovered b s) (period : Period) (force : Bool) :
    ((apply b period force).onStore s).2.entries = s.entries ∨
      ∃ i, ((apply b period force).onStore s).2.entries = s.entries ++
        [(NewEntry.system b.id period.description .credit b.payroll).record period.now i] := by
  have untouched : ((transferFor b period.now).onStore s).2 = s := by
    unfold transferFor
    split
    · exact coverDeficit_of_not_isCovered idle
    · rfl
  rw [apply_eq]
  split
  · rw [(confined_transferFor _ _).onStore_bind]
    rcases moved : (transferFor b period.now).onStore s with ⟨failure | transfer, u⟩ <;>
      rw [moved] at untouched <;> obtain rfl := untouched
    · exact .inl rfl
    · exact entries_credit _ _ _ _ _ _
  · exact .inl rfl

end

/-- A payment of a budget that asks for a transfer, is in debt, and draws on others, of which one
has weight, covers its debt: the deficit is its magnitude, its sources give all of it, the budget
stands at zero before its payroll is credited and at its payroll afterwards. Only of the least
amount one cent is left. A payment of a budget that is not in debt, or draws on nobody with weight,
writes no entry but that of its payroll. -/
theorem apply_clears_deficit (b : Budget) (period : Period) (force : Bool) (s : Session) :
    (∀ a t balance, (apply b period force).run (.live s) = (.ok (some a), .live t) →
      b.autoBalance → s.store.balance b.id = .ok balance → balance.isNegative →
      (∀ e ∈ s.store.sourcesOf b.id, e.source ≠ b.id) →
      (∃ e ∈ s.store.sourcesOf b.id, 0 < e.weight.toInt) →
        ∃ x u, a.transfer = some x ∧
          (balance ≠ .least → Relieves period b balance .zero a x s.store u t.store) ∧
          (balance = .least → Relieves period b balance ⟨-1⟩ a x s.store u t.store)) ∧
    ((∀ balance, s.store.balance b.id = .ok balance → ¬balance.isNegative) ∨
        (∀ e ∈ s.store.sourcesOf b.id, e.weight.toInt ≤ 0) →
      ∃ result t, (apply b period force).run (.live s) = (result, .live t) ∧
        (∀ a, result = .ok (some a) → a.transfer = none) ∧
        (t.store.entries = s.store.entries ∨ ∃ i, t.store.entries = s.store.entries ++
          [(NewEntry.system b.id period.description .credit b.payroll).record period.now i])) := by
  constructor
  · intro a t balance paid asks known negative apart backed
    have done := (confined_apply b period force).onStore_of_run paid
    obtain ⟨x, u, moved, relieves⟩ := relieves_of_apply done asks known negative apart backed
    refine ⟨x, u, moved, fun inner => ?_, fun extreme => ?_⟩
    · rwa [Money.rest, if_neg inner] at relieves
    · rwa [Money.rest, if_pos extreme] at relieves
  · intro nothing
    have idle : ¬IsCovered b s.store := by
      rintro ⟨⟨balance, known, negative⟩, e, he, weighty⟩
      rcases nothing with funded | weightless
      · exact funded balance known negative
      · exact Int.not_lt.2 (weightless e he) weighty
    refine ⟨_, _, confined_apply b period force s, fun a paid => ?_,
      entries_of_not_isCovered idle period force⟩
    rcases transfer : a.transfer with _ | x
    · rfl
    · have covers := (apply_ok (Prod.ext paid rfl)).2 a x rfl transfer
      exact absurd covers.isCovered idle

def inMarch : Period := ⟨noon, noon, "March 2024"⟩

def debtor : Budget := ⟨1, "rent", ⟨100⟩, none, true, noon, noon⟩

def solvent : Budget := ⟨2, "food", ⟨70⟩, none, true, noon, noon⟩

/-- A budget that owes fifty cents and draws on two others, one of which is in funds. -/
def indebted : Store where
  budgets := [debtor, solvent, ⟨3, "rest", ⟨0⟩, none, false, noon, noon⟩]
  entries := [⟨1, 1, none, "", .debit, ⟨50⟩, noon, noon⟩,
    ⟨2, 2, none, "", .credit, ⟨9⟩, noon, noon⟩]
  edges := [⟨1, 2, 1⟩, ⟨1, 3, 2⟩]
  lastBudget := 3
  lastEntry := 2
  budgets_byId := by decide
  entries_byId := by decide
  entries_le := by decide
  edges_byKey := by decide

/-- The two give seventeen cents and thirty-three, and the budget comes to its payroll. The one that
is in funds gets its payroll and nothing else. -/
theorem apply_clears_deficit_indebted :
    (∃ x, ∃ (u : Store) (t : Session),
      (apply debtor inMarch false).run (.live { store := indebted }) =
        (.ok (some ⟨1, "rent", ⟨100⟩, some x, noon⟩), .live t) ∧
      x.debits.map (·.amount.toInt) = [17, 33] ∧ x.deficit.toInt = 50 ∧ u.balance 1 = .ok .zero ∧
        ∃ balance, t.store.balance 1 = .ok balance ∧ balance.toInt = 100) ∧
    ∃ result, ∃ t : Session, (apply solvent inMarch false).run (.live { store := indebted }) =
        (result, .live t) ∧
      (t.store.entries = indebted.entries ∨ ∃ i, t.store.entries = indebted.entries ++
        [(NewEntry.system 2 inMarch.description .credit ⟨70⟩).record noon i]) := by
  constructor
  · have paid : ((apply debtor inMarch false).onStore indebted).1 = .ok (some ⟨1, "rent", ⟨100⟩,
        some ⟨⟨50⟩, [⟨2, ⟨17⟩⟩, ⟨3, ⟨33⟩⟩], ⟨50⟩⟩, noon⟩) := by cbv
    have ran := confined_apply debtor inMarch false { store := indebted }
    rw [paid] at ran
    have known : indebted.balance 1 = .ok ⟨-50⟩ := by decide
    obtain ⟨x, u, moved, cleared, -⟩ := (apply_clears_deficit debtor inMarch false
      { store := indebted }).1 _ _ _ ran rfl known (by decide) (by decide) (by decide)
    obtain rfl := Option.some.inj moved
    have relieves := cleared (by decide)
    exact ⟨_, u, _, ran, rfl, relieves.deficit, relieves.before, relieves.after⟩
  · obtain ⟨result, t, ran, -, entries⟩ :=
      (apply_clears_deficit solvent inMarch false { store := indebted }).2 (.inl (by
        intro balance known
        obtain rfl : ⟨9⟩ = balance := Except.ok.inj known
        decide))
    exact ⟨result, t, ran, entries⟩

/-- A budget whose debt is the least amount, and another that it draws on. -/
def abyss : Store where
  budgets := [debtor, ⟨2, "rest", ⟨0⟩, none, false, noon, noon⟩]
  entries := [⟨1, 1, none, "", .debit, .most, noon, noon⟩,
    ⟨2, 1, none, "", .debit, ⟨1⟩, noon, noon⟩]
  edges := [⟨1, 2, 9⟩]
  lastBudget := 2
  lastEntry := 2
  budgets_byId := by decide
  entries_byId := by decide
  entries_le := by decide
  edges_byKey := by decide

/-- Not every deficit is cleared: the magnitude of the least amount is not an amount, so a payment
moves one cent less, and the budget is still in debt when its payroll is credited. -/
theorem least_not_cleared :
    ¬∀ (b : Budget) (period : Period) (force : Bool) (s t : Session) (a : Application)
      (balance : Money), (apply b period force).run (.live s) = (.ok (some a), .live t) →
      b.autoBalance → s.store.balance b.id = .ok balance → balance.isNegative →
      (∀ e ∈ s.store.sourcesOf b.id, e.source ≠ b.id) →
      (∃ e ∈ s.store.sourcesOf b.id, 0 < e.weight.toInt) →
        ∃ x u, a.transfer = some x ∧ Relieves period b balance .zero a x s.store u t.store := by
  intro cleared
  have paid : ((apply debtor inMarch false).onStore abyss).1 = .ok (some ⟨1, "rent", ⟨100⟩,
      some ⟨.most, [⟨2, .most⟩], .most⟩, noon⟩) := by decide +kernel
  have ran := confined_apply debtor inMarch false { store := abyss }
  rw [paid] at ran
  have known : abyss.balance 1 = .ok .least := by decide
  obtain ⟨x, u, moved, relieves⟩ :=
    cleared _ _ _ _ _ _ _ ran rfl known (by decide) (by decide) (by decide)
  obtain rfl := Option.some.inj moved
  exact absurd relieves.deficit (by decide)

end Payroll

end Paymaster
