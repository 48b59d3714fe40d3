import Paymaster.Proofs.Payroll.Footprint

/-
  Paying a budget on two stores that have only this budget in common.
  The row of the budget, its balance and its edges are the same on both, and its sources exist
  (`SeenAlike`); all else may differ. So one of them may have run out of ids or refuse an entry
  (`Hindered`) where the other does not. If neither is hindered, both payments answer the same
  (`settle_unhindered`): what is still written on the way has no say in the answer.
-/

namespace Paymaster.Payroll

open Ledger LedgerM

/-- A store that could take an entry otherwise could not take this one. -/
def Hindrance (failure : Failure) : Prop :=
  failure = outOfIds ∨ failure = .error (.database Store.entryRejected)

/-- The store could not take an entry. -/
def Hindered {α : Type} (r : Except Failure α) : Prop :=
  ∃ failure, r = .error failure ∧ Hindrance failure

/-- What a payment of the budget reads is the same on both stores, and its sources exist. -/
structure SeenAlike (id : BudgetId) (s s' : Store) : Prop where
  balance : s'.balance id = s.balance id
  sources : s'.sourcesOf id = s.sourcesOf id
  present : s.hasBudget id ∧ s'.hasBudget id
  drawn : ∀ e ∈ s.sourcesOf id, s.hasBudget e.source ∧ s'.hasBudget e.source

/-! ## While the payment is under way -/

/-- The budget, or one of the sources. -/
def Asked (id : BudgetId) (sources : List Edge) (payer : BudgetId) : Prop :=
  payer = id ∨ ∃ e ∈ sources, e.source = payer

/-- Both stores have the budget with these sources, and all of them exist; either may be
hindered. -/
def sourcesShared (id : BudgetId) (sources : List Edge) : Comparison where
  related s s' := s.sourcesOf id = sources ∧ s'.sourcesOf id = sources ∧
    ∀ payer, Asked id sources payer → s.hasBudget payer ∧ s'.hasBudget payer
  excuse := Hindrance
  excuse' := Hindrance

variable {id : BudgetId} {sources : List Edge} {s s' : Store}

theorem SeenAlike.related (h : SeenAlike id s s') :
    (sourcesShared id (s.sourcesOf id)).related s s' := by
  refine ⟨rfl, h.sources, ?_⟩
  rintro payer (rfl | ⟨e, he, rfl⟩)
  · exact h.present
  · exact h.drawn e he

/-- An entry for a budget that exists is refused for its amount, or the store is hindered. -/
theorem refusal_of_hasBudget {e : NewEntry} (present : s.hasBudget e.budget) :
    refusal e s = (if e.amount.isPositive then none else some (.error (.invalidAmount e.amount))) ∨
      ∃ failure, refusal e s = some failure ∧ Hindrance failure := by
  unfold refusal
  by_cases positive : e.amount.isPositive
  · by_cases rejects : e.budget ∈ s.rejecting
    · exact .inr ⟨_, by simp [positive, rejects], .inr rfl⟩
    by_cases room : s.lastEntry < Int64.maxValue
    · exact .inl (by simp [positive, rejects, room, present])
    · exact .inr ⟨outOfIds, by simp [positive, rejects, room], .inl rfl⟩
  · exact .inl (by simp [positive])

theorem related_of_wrote {now : Instant} {news : List NewEntry} {stamps : List (BudgetId × Instant)}
    {t t' : Store} (rel : (sourcesShared id sources).related s s')
    (one : Wrote now news stamps s t) (other : Wrote now news stamps s' t') :
    (sourcesShared id sources).related t t' := by
  obtain ⟨here, here', present⟩ := rel
  refine ⟨?_, ?_, fun payer asked => ?_⟩
  · rw [Store.sourcesOf, one.edges]
    exact here
  · rw [Store.sourcesOf, other.edges]
    exact here'
  · rw [one.hasBudget, other.hasBudget]
    exact present payer asked

theorem carries_sourcesShared (id : BudgetId) (sources : List Edge) :
    (sourcesShared id sources).Carries id (Asked id sources) where
  self := .inl rfl
  present rel := by
    obtain ⟨here, here'⟩ := rel.2.2 id (.inl rfl)
    rw [here, here']
  sources rel := rel.2.1.trans rel.1.symm
  drawn rel e he := by
    rw [rel.1] at he
    exact .inr ⟨e, he, rfl⟩
  refuses rel e asked := by
    obtain ⟨here, here'⟩ := rel.2.2 e.budget asked
    rcases refusal_of_hasBudget here with one | hindered
    · rcases refusal_of_hasBudget here' with other | hindered
      · exact .inr (.inr (other.trans one.symm))
      · exact .inr (.inl hindered)
    · exact .inl hindered
  posts rel one other _ := related_of_wrote rel one other
  stamps rel one other := related_of_wrote rel one other

/-! ## Payments -/

variable {p : Payment}

/-- A payment comes to the same on both stores, unless one of them is hindered. -/
theorem settle_unhindered (admits : s'.admits p.budget p.actor = s.admits p.budget p.actor)
    (h : SeenAlike p.budget s s')
    (row : (s'.budget? p.budget).map Budget.undated = (s.budget? p.budget).map Budget.undated) :
    Hindered (p.settle s).1 ∨ Hindered (p.settle s').1 ∨ (p.settle s').1 = (p.settle s).1 := by
  rw [Payment.answer_settle, Payment.answer_settle, admits]
  split
  · rcases Period.containing p.zone p.now with cause | period
    · exact .inr (.inr rfl)
    · have together := together_payOne (carries_sourcesShared p.budget (s.sourcesOf p.budget))
        h.related row h.balance p.force period
      rcases together with hindered | hindered | ⟨same, -⟩
      · exact .inl hindered
      · exact .inr (.inl hindered)
      · exact .inr (.inr same)
  · exact .inr (.inr rfl)

end Paymaster.Payroll
