import Paymaster.Proofs.Ledger.Confined
import Paymaster.Proofs.Money

/-
  What a budget holds.
  The store adds up the signed amounts of a budget's entries as exact numbers, in the order of their
  ids, and refuses as soon as a running sum leaves the 64-bit range. Entries can also be added up
  one after the other as amounts of money (`Entry.total`), where a negation or an addition may be
  refused. On positive amounts the two agree: either every running sum fits, and both give credits
  less debits exactly, or one does not, and neither gives anything (`currentBalance_agrees`).
-/

namespace Paymaster

/-! ## Numbers that a word holds -/

namespace Money

/-- A 64-bit word holds the number. -/
def Fits (n : Int) : Prop := Int64.minValue.toInt ≤ n ∧ n ≤ Int64.maxValue.toInt

instance (n : Int) : Decidable (Fits n) := inferInstanceAs (Decidable (_ ∧ _))

theorem fits_toInt (m : Money) : Fits m.toInt := ⟨m.cents.minValue_le_toInt, m.cents.toInt_le⟩

theorem ofInt?_eq_some_iff {n : Int} {m : Money} : ofInt? n = some m ↔ m.toInt = n := by
  refine ⟨toInt_of_ofInt?, ?_⟩
  rintro rfl
  exact ofInt?_toInt m

theorem isSome_ofInt?_iff {n : Int} : (ofInt? n).isSome ↔ Fits n := by
  unfold ofInt? Fits
  split <;> simp_all

end Money

/-! ## Adding up entries -/

namespace Entry

/-- Adds the signed amount of an entry. -/
def addTo (total : Money) (e : Entry) : Except Overflow Money := do
  let amount ← e.signedAmount
  total.add amount

/-- The signed amounts of entries, added up from the first. -/
def total (entries : List Entry) : Except Overflow Money := entries.foldlM addTo Money.zero

/-- Adds the signed amount of an entry as an exact number. -/
def addExactly (total : Money) (e : Entry) : Option Money :=
  Money.ofInt? (total.toInt + e.signedCents)

section
variable {e : Entry} {es : List Entry}

/-- A positive amount can be counted either way. -/
theorem signedAmount_of_isPositive (positive : e.amount.isPositive) :
    ∃ amount, e.signedAmount = .ok amount ∧ amount.toInt = e.signedCents := by
  unfold signedAmount signedCents
  cases e.direction with
  | credit => exact ⟨e.amount, rfl, rfl⟩
  | debit =>
    have fits := Money.fits_toInt e.amount
    have least : Int64.minValue.toInt = -9223372036854775808 := rfl
    have greatest : Int64.maxValue.toInt = 9223372036854775807 := rfl
    have opposite : Money.Fits (-e.amount.toInt) := by
      simp only [Money.isPositive, decide_eq_true_eq] at positive
      unfold Money.Fits at *
      omega
    obtain ⟨m, found⟩ := Option.isSome_iff_exists.1 (Money.isSome_ofInt?_iff.2 opposite)
    refine ⟨m, ?_, Money.toInt_of_ofInt? found⟩
    rw [Money.negate, found]

/-- So only their sum may leave the range. -/
theorem toOption_addTo (positive : e.amount.isPositive) (total : Money) :
    (addTo total e).toOption = addExactly total e := by
  obtain ⟨amount, counted, exact⟩ := signedAmount_of_isPositive positive
  have added : addTo total e = total.add amount := by
    rw [addTo, counted]
    rfl
  rw [added, addExactly, ← exact, Money.add]
  rcases Money.ofInt? (total.toInt + amount.toInt) with _ | _ <;> rfl

theorem toOption_foldlM_addTo (positive : ∀ e ∈ es, e.amount.isPositive) (start : Money) :
    (es.foldlM addTo start).toOption = es.foldlM addExactly start := by
  induction es generalizing start with
  | nil => rfl
  | cons e es ih =>
    have first := toOption_addTo (positive e List.mem_cons_self) start
    rw [List.foldlM_cons, List.foldlM_cons, ← first]
    rcases addTo start e with cause | next
    · rfl
    · exact ih (fun e he => positive e (List.mem_cons_of_mem _ he)) next

/-- The exact sum is given just if every running sum on the way fits. -/
theorem isSome_foldlM_addExactly_iff {start : Money} : (es.foldlM addExactly start).isSome ↔
    ∀ n, Money.Fits (start.toInt + ((es.take n).map signedCents).sum) := by
  induction es generalizing start with
  | nil => simpa using Money.fits_toInt start
  | cons e es ih =>
    have split : (∀ n, Money.Fits (start.toInt + (((e :: es).take n).map signedCents).sum)) ↔
        ∀ n, Money.Fits (start.toInt + e.signedCents + ((es.take n).map signedCents).sum) := by
      constructor
      · intro fits n
        simpa [Int.add_assoc] using fits (n + 1)
      · intro fits n
        cases n with
        | zero => simpa using Money.fits_toInt start
        | succ n => simpa [Int.add_assoc] using fits n
    rw [List.foldlM_cons, split]
    rcases first : addExactly start e with _ | next
    · have outside : ¬Money.Fits (start.toInt + e.signedCents) := by
        rw [← Money.isSome_ofInt?_iff, ← addExactly, first]
        decide
      exact iff_of_false Bool.false_ne_true fun fits => outside (by simpa using fits 0)
    · have sum := Money.toInt_of_ofInt? first
      rw [← sum]
      exact ih

theorem toInt_foldlM_addExactly {start total : Money}
    (h : es.foldlM addExactly start = some total) :
    total.toInt = start.toInt + (es.map signedCents).sum := by
  induction es generalizing start with
  | nil =>
    cases h
    simp
  | cons e es ih =>
    rw [List.foldlM_cons] at h
    rcases first : addExactly start e with _ | next <;> rw [first] at h
    · cases h
    · rw [ih h, Money.toInt_of_ofInt? first, List.map_cons, List.sum_cons, Int.add_assoc]

end

end Entry

/-! ## The balance of a budget -/

namespace Store

/-- The sum of the credits of a budget. -/
def credited (s : Store) (id : BudgetId) : Int :=
  (((s.entriesOf id).filter (·.direction = .credit)).map (·.amount.toInt)).sum

/-- The sum of its debits. -/
def debited (s : Store) (id : BudgetId) : Int :=
  (((s.entriesOf id).filter (·.direction = .debit)).map (·.amount.toInt)).sum

theorem sum_signedCents (s : Store) (id : BudgetId) :
    ((s.entriesOf id).map Entry.signedCents).sum = s.credited id - s.debited id := by
  unfold credited debited
  induction s.entriesOf id with
  | nil => rfl
  | cons e es ih =>
    rw [List.map_cons, List.sum_cons, ih]
    cases direction : e.direction <;> simp [Entry.signedCents, direction] <;> omega

variable {s : Store} {id : BudgetId}

theorem balance_eq (s : Store) (id : BudgetId) : s.balance id =
    match (s.entriesOf id).foldlM Entry.addExactly Money.zero with
    | some total => .ok total
    | none => .error sumOverflow := rfl

theorem balance_eq_ok_iff {total : Money} : s.balance id = .ok total ↔
    (s.entriesOf id).foldlM Entry.addExactly Money.zero = some total := by
  rw [balance_eq]
  rcases (s.entriesOf id).foldlM Entry.addExactly Money.zero with _ | _ <;> simp

/-- On positive amounts the store and the sum of the entries agree. -/
theorem balance_eq_total (positive : ∀ e ∈ s.entriesOf id, e.amount.isPositive) :
    s.balance id = (Entry.total (s.entriesOf id)).mapError fun _ => sumOverflow := by
  have same := Entry.toOption_foldlM_addTo positive Money.zero
  rw [balance_eq, ← same, ← Entry.total]
  rcases Entry.total (s.entriesOf id) with _ | _ <;> rfl

end Store

namespace Ledger

theorem run_currentBalance (id : BudgetId) (s : Session) :
    (currentBalance id).run (.live s) = match s.store.balance id with
      | .ok total => (.ok total, .live s)
      | .error cause => (.error (.error (.database cause)), .live s) := by
  rw [currentBalance, LedgerM.run_statement]
  rcases s.store.balance id with _ | _ <;> rfl

/-- What is asked for as the balance of a budget is what its entries add up to. -/
structure BalanceAgrees (id : BudgetId) (s : Session) : Prop where
  /-- A balance is given just if the entries can be added up, and it is their total. -/
  ok_iff : ∀ total, (currentBalance id).run (.live s) = (.ok total, .live s) ↔
    Entry.total (s.store.entriesOf id) = .ok total
  /-- They can be added up just if no running sum of their exact amounts leaves the range. -/
  running : (∃ total, Entry.total (s.store.entriesOf id) = .ok total) ↔
    ∀ n, Money.Fits (((s.store.entriesOf id).take n).map Entry.signedCents).sum
  exact : ∀ total, Entry.total (s.store.entriesOf id) = .ok total →
    total.toInt = s.store.credited id - s.store.debited id
  /-- Else the store refuses; it gives no other amount. -/
  refused : ∀ cause, Entry.total (s.store.entriesOf id) = .error cause →
    (currentBalance id).run (.live s) = (.error (.error (.database Store.sumOverflow)), .live s)
  /-- The entries of other budgets do not matter. -/
  others : ∀ t : Session, t.store.entriesOf id = s.store.entriesOf id →
    ((currentBalance id).run (.live t)).1 = ((currentBalance id).run (.live s)).1

/-- For every ledger in which the entries of a budget are positive: its balance is given just if
the signed amounts can be added up one after the other without an overflow, it is then their exact
sum, and otherwise the store refuses. -/
theorem currentBalance_agrees (id : BudgetId) (s : Session)
    (positive : ∀ e ∈ s.store.entriesOf id, e.amount.isPositive) : BalanceAgrees id s := by
  have answer := run_currentBalance id s
  rw [Store.balance_eq_total positive] at answer
  have fold := Entry.toOption_foldlM_addTo positive Money.zero
  rw [← Entry.total] at fold
  have given : (∃ total, Entry.total (s.store.entriesOf id) = .ok total) ↔
      (Entry.total (s.store.entriesOf id)).toOption.isSome := by
    rcases Entry.total (s.store.entriesOf id) with _ | _ <;> simp [Except.toOption]
  exact {
    ok_iff := fun total => by
      rw [answer]
      rcases Entry.total (s.store.entriesOf id) with _ | _ <;> simp [Except.mapError]
    running := by
      rw [given, fold, Entry.isSome_foldlM_addExactly_iff]
      simp only [Money.toInt_zero, Int.zero_add]
    exact := fun total sum => by
      rw [sum] at fold
      rw [Entry.toInt_foldlM_addExactly fold.symm, Store.sum_signedCents, Money.toInt_zero,
        Int.zero_add]
    refused := fun cause left => by
      rw [answer, left]
      rfl
    others := fun t same => by
      rw [run_currentBalance, run_currentBalance, Store.balance_eq, same, ← Store.balance_eq]
      rcases s.store.balance id with _ | _ <;> rfl }

/-- Almost all that an amount can hold is credited to the first budget; a debit of the second lies
between that and the two cents more that the first gets before it gives five. -/
def brimful : Store where
  budgets := [⟨1, "rent", ⟨100⟩, none, false, Instant.first, Instant.first⟩,
    ⟨2, "food", ⟨60⟩, none, false, Instant.first, Instant.first⟩]
  entries := [⟨1, 1, none, "", .credit, ⟨Int64.maxValue - 1⟩, Instant.first, Instant.first⟩,
    ⟨2, 2, none, "", .debit, ⟨7⟩, Instant.first, Instant.first⟩,
    ⟨3, 1, none, "", .credit, ⟨2⟩, Instant.first, Instant.first⟩,
    ⟨4, 1, none, "", .debit, ⟨5⟩, Instant.first, Instant.first⟩]
  lastBudget := 2
  lastEntry := 4
  budgets_byId := by decide
  entries_byId := by decide
  entries_le := by decide

/-- The balance of the first would fit, but a running sum does not, and it is refused; that of the
second is what it gave. -/
theorem currentBalance_agrees_brimful :
    (currentBalance 1).run (.live { store := brimful }) =
        (.error (.error (.database Store.sumOverflow)), .live { store := brimful }) ∧
      (currentBalance 2).run (.live { store := brimful }) =
        (.ok ⟨-7⟩, .live { store := brimful }) ∧
      Money.Fits (brimful.credited 1 - brimful.debited 1) := by
  refine ⟨?_, ?_, by decide⟩
  · exact (currentBalance_agrees 1 { store := brimful } (by decide)).refused .add (by decide)
  · exact ((currentBalance_agrees 2 { store := brimful } (by decide)).ok_iff _).2 (by decide)

end Ledger

end Paymaster
