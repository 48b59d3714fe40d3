import Mathlib
import Paymaster.Ledger.Store

/-
  The rows of budgets and their ids.
  Ids rise strictly along the list of budgets, so an id belongs to one row, and looking a row up by
  its id finds it.
-/

namespace Paymaster.Store

theorem ids_unequal (s : Store) : s.budgets.Pairwise fun a b => a.id ≠ b.id := by
  refine s.budgets_byId.imp fun before same => ?_
  rw [same, Int64.lt_iff_toInt_lt] at before
  omega

/-- A budget is the only one of its id. -/
theorem eq_of_mem_budgets {s : Store} {a b : Budget} (ha : a ∈ s.budgets) (hb : b ∈ s.budgets)
    (same : a.id = b.id) : a = b := by
  by_contra differ
  have : Std.Symm fun a b : Budget => a.id ≠ b.id := ⟨fun _ _ unequal => unequal.symm⟩
  exact s.ids_unequal.forall ha hb differ same

theorem budget?_eq_some_iff {s : Store} {id : BudgetId} {b : Budget} :
    s.budget? id = some b ↔ b ∈ s.budgets ∧ b.id = id := by
  constructor
  · intro found
    exact ⟨List.mem_of_find?_eq_some found, by simpa using List.find?_some found⟩
  · rintro ⟨hb, rfl⟩
    rcases found : s.budget? b.id with _ | x
    · have := List.find?_eq_none.1 found b hb
      simp at this
    · have hx : x.id = b.id := by simpa using List.find?_some found
      rw [eq_of_mem_budgets (List.mem_of_find?_eq_some found) hb hx]

theorem rows_eq_zero_iff {s : Store} {id : BudgetId} :
    (s.budgets.filter (·.id = id)).length = 0 ↔ ¬s.hasBudget id := by
  rw [List.length_eq_zero_iff, List.filter_eq_nil_iff]
  simp [Store.hasBudget, Store.budget?]

end Paymaster.Store
