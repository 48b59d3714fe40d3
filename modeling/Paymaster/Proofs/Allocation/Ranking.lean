import Mathlib
import Paymaster.Proofs.Allocation.Weights

/-
  Who gets the units that the whole parts leave over.
  The claims are the positive weights with their places. They are ranked by a stable sort, and the
  claims of the favoured places are the first of the ranking, as many as there are units left over.
  A claim stands before another there just if it is ahead of it: its remainder is larger, or as
  large and its place earlier (`pairwise_ranked`). So a place is favoured just if fewer claims are
  ahead of its own than there are units (`mem_favoured_iff`).

  The total weight times the units left over is the sum of all remainders (`mul_leftover`). Each
  remainder is less than the total weight, so no more units are left over than there are claims
  with a remainder (`leftover_le_broken`), and these alone are favoured (`remainder_pos`).
-/

namespace Paymaster.Allocation

variable {deficit total : Int} {weights : List Int} {place : Nat} {weight : Int}

/-! ## Stable sorting -/

/-- A stable sort leaves elements that tie in the order in which they stood. -/
theorem filter_mergeSort {α : Type} {le : α → α → Bool}
    (trans : ∀ a b c, le a b → le b c → le a c) (total : ∀ a b, le a b || le b a) {tied : α → Bool}
    (tie : ∀ a b, tied a → tied b → le a b) (l : List α) :
    (l.mergeSort le).filter tied = l.filter tied := by
  have inOrder : (l.filter tied).Pairwise (le · ·) :=
    List.pairwise_filter.2 (List.pairwise_of_forall fun a b => tie a b)
  have kept := (List.sublist_mergeSort trans total inOrder List.filter_sublist).filter tied
  rw [List.filter_filter] at kept
  simp only [Bool.and_self] at kept
  exact (kept.eq_of_length ((List.mergeSort_perm l le).filter tied).length_eq.symm).symm

/-- Along a strict order an element is among the first `n` just if fewer than `n` come before. -/
theorem mem_take_iff_countP_lt {α : Type} {before : α → α → Prop} [DecidableRel before]
    (asymm : ∀ a b, before a b → ¬before b a) {l : List α} (sorted : l.Pairwise before) {a : α}
    (ha : a ∈ l) (n : Nat) : a ∈ l.take n ↔ l.countP (before · a) < n := by
  induction l generalizing n with
  | nil => cases ha
  | cons b l ih =>
    obtain ⟨first, rest⟩ := List.pairwise_cons.1 sorted
    cases n with
    | zero => simp
    | succ n =>
      rw [List.take_succ_cons, List.mem_cons, List.countP_cons]
      rcases List.mem_cons.1 ha with rfl | later
      · have none : l.countP (before · a) = 0 :=
          List.countP_eq_zero.2 fun c hc => by simpa using asymm a c (first c hc)
        have self : ¬before a a := fun loop => asymm a a loop loop
        simp [none, self]
      · have other : a ≠ b := by
          rintro rfl
          exact asymm a a (first a later) (first a later)
        simp [other, first a later, ih rest later]

/-! ## The ranking -/

/-- A claim is ahead of another when units are given out: its remainder is larger, or as large and
its place earlier. -/
def Ahead (deficit total : Int) (a b : Int × Nat) : Prop :=
  remainder deficit total b.1 < remainder deficit total a.1 ∨
    remainder deficit total a.1 = remainder deficit total b.1 ∧ a.2 < b.2

instance (deficit total : Int) : DecidableRel (Ahead deficit total) :=
  fun _ _ => inferInstanceAs (Decidable (_ ∨ _))

theorem Ahead.asymm {a b : Int × Nat} (h : Ahead deficit total a b) : ¬Ahead deficit total b a := by
  unfold Ahead at *
  omega

/-- A claim has no smaller remainder than another. -/
def noSmaller (deficit total : Int) (a b : Int × Nat) : Bool :=
  remainder deficit total b.1 ≤ remainder deficit total a.1

theorem noSmaller_trans (deficit total : Int) (a b c : Int × Nat) :
    noSmaller deficit total a b → noSmaller deficit total b c → noSmaller deficit total a c := by
  simp only [noSmaller, decide_eq_true_eq]
  omega

theorem noSmaller_total (deficit total : Int) (a b : Int × Nat) :
    noSmaller deficit total a b || noSmaller deficit total b a := by
  simp only [noSmaller, Bool.or_eq_true, decide_eq_true_eq]
  omega

/-- The claims, the largest remainders first. -/
def ranked (deficit total : Int) (weights : List Int) : List (Int × Nat) :=
  (claims weights).mergeSort (noSmaller deficit total)

theorem mem_ranked {claim : Int × Nat} :
    claim ∈ ranked deficit total weights ↔ claim ∈ claims weights := List.mem_mergeSort

/-- Claims with one remainder are ranked as they are listed. -/
theorem filter_ranked (deficit total : Int) (weights : List Int) (rest : Int) :
    (ranked deficit total weights).filter (remainder deficit total ·.1 = rest) =
      (claims weights).filter (remainder deficit total ·.1 = rest) := by
  refine filter_mergeSort (noSmaller_trans deficit total) (noSmaller_total deficit total)
    (fun a b ha hb => ?_) _
  simp only [noSmaller, decide_eq_true_eq] at *
  omega

theorem pairwise_ranked (deficit total : Int) (weights : List Int) :
    (ranked deficit total weights).Pairwise (Ahead deficit total) := by
  have descending : (ranked deficit total weights).Pairwise (noSmaller deficit total · ·) :=
    List.pairwise_mergeSort (noSmaller_trans deficit total) (noSmaller_total deficit total) _
  refine List.pairwise_iff_forall_sublist.2 fun {a b} pair => ?_
  have larger := of_decide_eq_true (List.pairwise_iff_forall_sublist.1 descending pair)
  rcases Int.lt_or_eq_of_le larger with less | same
  · exact .inl less
  -- Of two equal remainders the one that is listed first is still the first.
  · have kept := pair.filter (remainder deficit total ·.1 = remainder deficit total a.1)
    rw [filter_ranked, List.filter_eq_self.2 (by simp [same])] at kept
    have listed := (pairwise_claims weights).sublist (kept.trans List.filter_sublist)
    exact .inr ⟨same.symm, (List.pairwise_cons.1 listed).1 b List.mem_cons_self⟩

theorem totalWeight_eq_sum (weights : List Int) :
    totalWeight weights = (positive weights).sum := by
  rw [← totalWeight_positive]
  show ((positive weights).map (max · 0)).sum = _
  rw [List.map_congr_left (g := id) fun w hw => ?_, List.map_id]
  exact max_eq_left (Int.le_of_lt (mem_positive.1 hw).2)

/-- How many claims are ahead of one. -/
def countAhead (deficit : Int) (weights : List Int) (claim : Int × Nat) : Nat :=
  (claims weights).countP (Ahead deficit (positive weights).sum · claim)

theorem favoured_eq_map_take (deficit : Int) (weights : List Int) : favoured deficit weights =
    ((ranked deficit (totalWeight weights) weights).take
      (leftover deficit weights).toNat).map (·.2) := by
  rw [List.map_take]
  rfl

theorem mem_favoured_iff (listed : weights[place]? = some weight) :
    place ∈ favoured deficit weights ↔
      0 < weight ∧ (countAhead deficit weights (weight, place) : Int) <
        leftover deficit weights := by
  have rank (claim : Int × Nat) (hc : claim ∈ claims weights) :
      claim ∈ (ranked deficit (totalWeight weights) weights).take (leftover deficit weights).toNat ↔
        (countAhead deficit weights claim : Int) < leftover deficit weights := by
    rw [mem_take_iff_countP_lt (fun _ _ => Ahead.asymm) (pairwise_ranked _ _ _) (mem_ranked.2 hc),
      ranked, (List.mergeSort_perm _ _).countP_eq, totalWeight_eq_sum, ← countAhead]
    omega
  rw [favoured_eq_map_take, List.mem_map]
  constructor
  · rintro ⟨⟨other, place⟩, taken, rfl⟩
    have claim := mem_ranked.1 (List.mem_of_mem_take taken)
    obtain ⟨there, positive⟩ := mem_claims.1 claim
    obtain rfl : weight = other := Option.some.inj (listed.symm.trans there)
    exact ⟨positive, (rank _ claim).1 taken⟩
  · rintro ⟨positive, few⟩
    exact ⟨(weight, place), (rank _ (mem_claims.2 ⟨listed, positive⟩)).2 few, rfl⟩

theorem nodup_favoured (deficit : Int) (weights : List Int) : (favoured deficit weights).Nodup := by
  rw [favoured_eq_map_take]
  refine List.Nodup.sublist ((List.take_sublist _ _).map _) ?_
  exact ((List.mergeSort_perm _ _).map _).nodup_iff.2 (nodup_places weights)

/-! ## The units left over -/

theorem quota_of_pos (deficit total : Int) (h : 0 < weight) :
    quota deficit total weight = deficit * weight / total := by
  rw [quota, max_eq_left (Int.le_of_lt h)]

theorem leftover_eq (deficit : Int) (weights : List Int) : leftover deficit weights =
    deficit - ((positive weights).map fun w => deficit * w / totalWeight weights).sum := by
  rw [← leftover_positive, leftover, totalWeight_positive]
  show deficit - ((positive weights).map _).sum = _
  rw [List.map_congr_left fun w hw => ?_]
  exact quota_of_pos _ _ (mem_positive.1 hw).2

theorem mul_leftover (deficit : Int) (weights : List Int) :
    totalWeight weights * leftover deficit weights =
      ((positive weights).map (remainder deficit (totalWeight weights))).sum := by
  have parted : ((positive weights).map fun w => totalWeight weights *
      (deficit * w / totalWeight weights) + remainder deficit (totalWeight weights) w).sum =
        deficit * totalWeight weights := by
    simp only [remainder, Int.mul_ediv_add_emod]
    rw [List.sum_map_mul_left, List.map_id', ← totalWeight_eq_sum]
  rw [List.sum_map_add, List.sum_map_mul_left] at parted
  rw [leftover_eq, Int.mul_sub, Int.mul_comm (totalWeight weights) deficit]
  omega

theorem remainder_bounds {total : Int} (weighty : 0 < total) (deficit weight : Int) :
    0 ≤ remainder deficit total weight ∧ remainder deficit total weight < total :=
  ⟨Int.emod_nonneg _ weighty.ne', Int.emod_lt_of_pos _ weighty⟩

/-- How many claims the whole parts do not settle. -/
def broken (deficit : Int) (weights : List Int) : Nat :=
  (claims weights).countP fun claim => 0 < remainder deficit (totalWeight weights) claim.1

section
variable (weighty : 0 < totalWeight weights)
include weighty

theorem leftover_nonneg (deficit : Int) : 0 ≤ leftover deficit weights := by
  refine nonneg_of_mul_nonneg_right ?_ weighty
  rw [mul_leftover]
  refine List.sum_nonneg fun r hr => ?_
  obtain ⟨w, -, rfl⟩ := List.mem_map.1 hr
  exact (remainder_bounds weighty deficit w).1

/-- Every remainder is less than the total weight. -/
theorem sum_remainders_le (deficit : Int) (cs : List (Int × Nat)) :
    (cs.map fun claim => remainder deficit (totalWeight weights) claim.1).sum ≤
      totalWeight weights * cs.countP fun claim =>
        0 < remainder deficit (totalWeight weights) claim.1 := by
  induction cs with
  | nil => simp
  | cons claim cs ih =>
    have less := (remainder_bounds weighty deficit claim.1).2
    rw [List.map_cons, List.sum_cons, List.countP_cons]
    split
    · rw [Nat.cast_add, Nat.cast_one, Int.mul_add, Int.mul_one]
      omega
    · rename_i settled
      rw [decide_eq_true_eq] at settled
      rw [Nat.add_zero]
      omega

theorem leftover_le_broken (deficit : Int) :
    leftover deficit weights ≤ broken deficit weights := by
  refine le_of_mul_le_mul_left ?_ weighty
  rw [mul_leftover, ← map_fst_claims, List.map_map]
  exact sum_remainders_le weighty deficit (claims weights)

/-- Whoever is favoured has a remainder. -/
theorem remainder_pos (listed : weights[place]? = some weight)
    (favoured : place ∈ favoured deficit weights) :
    0 < remainder deficit (totalWeight weights) weight := by
  obtain ⟨-, few⟩ := (mem_favoured_iff listed).1 favoured
  refine lt_of_le_of_ne (remainder_bounds weighty deficit weight).1 fun settled => ?_
  -- Else all claims with a remainder are ahead, and these are as many as there are units.
  have ahead : broken deficit weights ≤ countAhead deficit weights (weight, place) :=
    List.countP_mono_left fun claim _ more => decide_eq_true (.inl (by
      rw [← totalWeight_eq_sum, ← settled]
      exact of_decide_eq_true more))
  have most := leftover_le_broken weighty deficit
  omega

theorem length_favoured (deficit : Int) :
    ((favoured deficit weights).length : Int) = leftover deficit weights := by
  have most := leftover_le_broken weighty deficit
  have few : broken deficit weights ≤ (claims weights).length := List.countP_le_length
  have least := leftover_nonneg weighty deficit
  rw [favoured_eq_map_take, List.length_map, List.length_take_of_le]
  · exact Int.toNat_of_nonneg least
  · rw [ranked, List.length_mergeSort]
    omega

end

end Paymaster.Allocation
