import Mathlib
import Paymaster.Money

/-
  Sums of money as sums of integers.
  Adding is refused when the result leaves the 64-bit range, so a sum that is given is exact.
-/

namespace Paymaster.Money

theorem toInt_zero : zero.toInt = 0 := rfl

theorem toInt_add {a b c : Money} (h : add a b = .ok c) : c.toInt = a.toInt + b.toInt := by
  unfold add at h
  split at h
  · rename_i m hm
    cases h
    exact toInt_of_ofInt? hm
  · cases h

theorem toInt_foldlM_add {ms : List Money} {start total : Money}
    (h : ms.foldlM add start = .ok total) : total.toInt = start.toInt + (ms.map toInt).sum := by
  induction ms generalizing start with
  | nil =>
    cases h
    simp
  | cons m ms ih =>
    rw [List.foldlM_cons] at h
    rcases first : add start m with cause | next <;> rw [first] at h
    · cases h
    · rw [ih h, toInt_add first, List.map_cons, List.sum_cons]
      omega

theorem toInt_sum {ms : List Money} {total : Money} (h : sum ms = .ok total) :
    total.toInt = (ms.map toInt).sum := by
  rw [toInt_foldlM_add h, toInt_zero]
  omega

end Paymaster.Money
