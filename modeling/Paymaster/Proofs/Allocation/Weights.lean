import Mathlib
import Paymaster.Allocation

/-
  Only sources of positive weight pay.
  The whole part of what a source is due is zero without weight, and the units left over go to
  places of the ranking, which lists positive weights only.

  So sources without weight may be left out of a split (`allocate_positive`): the
  others keep their order, and each is favoured at its new place just if it was at its old one
  (`placeOf_mem_favoured`).
-/

namespace Paymaster.Allocation

variable {deficit : Int} {weights : List Int} {place : Nat} {weight cents : Int}

/-! ## Claims -/

/-- The positive weights with their places. -/
def claims (weights : List Int) : List (Int × Nat) := weights.zipIdx.filter (0 < ·.1)

theorem mem_claims : (weight, place) ∈ claims weights ↔
    weights[place]? = some weight ∧ 0 < weight := by
  rw [claims, List.mem_filter, List.mem_zipIdx_iff_getElem?]
  simp

theorem pairwise_claims (weights : List Int) : (claims weights).Pairwise (·.2 < ·.2) := by
  have places : (weights.zipIdx.map (·.2)).Pairwise (· < ·) := by
    rw [List.zipIdx_map_snd]
    exact List.pairwise_lt_range'
  exact (List.pairwise_map.1 places).filter _

theorem nodup_places (weights : List Int) : ((claims weights).map (·.2)).Nodup :=
  List.pairwise_map.2 ((pairwise_claims weights).imp Nat.ne_of_lt)

/-! ## Who pays -/

theorem quota_of_nonpos (deficit total : Int) (h : weight ≤ 0) :
    quota deficit total weight = 0 := by
  rw [quota, max_eq_right h, mul_zero, Int.zero_ediv]

theorem quota_nonneg {total : Int} (owing : 0 ≤ deficit) (weighty : 0 ≤ total) (weight : Int) :
    0 ≤ quota deficit total weight :=
  Int.ediv_nonneg (Int.mul_nonneg owing (le_max_right _ _)) weighty

/-- The places that get a unit left over have weight. -/
theorem weight_pos_of_mem_favoured (h : place ∈ favoured deficit weights) :
    ∃ weight, weights[place]? = some weight ∧ 0 < weight := by
  obtain ⟨claim, listed, rfl⟩ := List.mem_map.1 (List.mem_of_mem_take h)
  exact ⟨claim.1, mem_claims.1 (List.mem_mergeSort.1 listed)⟩

/-- Who pays something has weight. -/
theorem weight_pos_of_allocate_pos (h : (allocate deficit weights)[place]? = some cents)
    (pays : 0 < cents) : ∃ weight, weights[place]? = some weight ∧ 0 < weight := by
  unfold allocate at h
  split at h
  · rw [List.getElem?_map] at h
    obtain ⟨_, -, rfl⟩ := Option.map_eq_some_iff.1 h
    cases pays
  rw [List.getElem?_map, List.getElem?_zipIdx, Option.map_map] at h
  obtain ⟨weight, listed, rfl⟩ := Option.map_eq_some_iff.1 h
  by_contra weightless
  have nonpos : weight ≤ 0 := not_lt.1 fun positive => weightless ⟨weight, listed, positive⟩
  have not_favoured : place ∉ favoured deficit weights := fun favoured =>
    weightless (weight_pos_of_mem_favoured favoured)
  simp [quota_of_nonpos deficit _ nonpos, not_favoured] at pays

/-! ## Sources without weight left out -/

/-- The weights that are positive. -/
def positive (weights : List Int) : List Int := weights.filter (0 < ·)

theorem mem_positive : weight ∈ positive weights ↔ weight ∈ weights ∧ 0 < weight := by
  rw [positive, List.mem_filter, decide_eq_true_eq]

/-- The place in the list of the positive weight that is at a place among the positive ones. -/
def placeOf (weights : List Int) (place : Nat) : Nat :=
  ((weights.zipIdx.filter (0 < ·.1)).map (·.2)).getD place 0

theorem map_fst_claims (weights : List Int) :
    (claims weights).map (·.1) = positive weights := by
  conv_rhs => rw [positive, ← List.zipIdx_map_fst 0 weights, List.filter_map]
  rfl

theorem length_positive (weights : List Int) :
    (positive weights).length = (claims weights).length := by
  rw [← map_fst_claims, List.length_map]

theorem claims_eq (weights : List Int) : claims weights =
    (positive weights).zipIdx.map fun claim => (claim.1, placeOf weights claim.2) := by
  apply List.ext_getElem
  · rw [List.length_map, List.length_zipIdx, length_positive]
  · intro i hi _
    rw [claims] at hi
    simp [claims, placeOf, ← map_fst_claims, hi]

theorem claims_positive (weights : List Int) :
    claims (positive weights) = (positive weights).zipIdx := by
  refine List.filter_eq_self.2 fun claim hc => ?_
  exact (List.mem_filter.1 (List.fst_mem_of_mem_zipIdx hc)).2

theorem placeOf_injective {i j : Nat} (hi : i < (positive weights).length)
    (hj : j < (positive weights).length) (same : placeOf weights i = placeOf weights j) :
    i = j := by
  rw [length_positive, ← List.length_map (f := Prod.snd)] at hi hj
  unfold placeOf at same
  rw [← claims, List.getD_eq_getElem _ _ hi, List.getD_eq_getElem _ _ hj] at same
  exact (nodup_places weights).getElem_inj_iff.1 same

theorem totalWeight_positive (weights : List Int) :
    totalWeight (positive weights) = totalWeight weights := by
  unfold totalWeight positive
  induction weights with
  | nil => rfl
  | cons w weights ih =>
    by_cases weighty : 0 < w
    · simp [weighty, ih]
    · simp [weighty, ih, max_eq_right (not_lt.1 weighty)]

theorem leftover_positive (deficit : Int) (weights : List Int) :
    leftover deficit (positive weights) = leftover deficit weights := by
  have sum (total : Int) : ((positive weights).map (quota deficit total)).foldr (· + ·) 0 =
      (weights.map (quota deficit total)).foldr (· + ·) 0 := by
    unfold positive
    induction weights with
    | nil => rfl
    | cons w weights ih =>
      by_cases weighty : 0 < w
      · simp [weighty, ih]
      · simp [weighty, ih, quota_of_nonpos deficit total (not_lt.1 weighty)]
  rw [leftover, leftover, totalWeight_positive, sum]

theorem ranking_eq (deficit : Int) (weights : List Int) :
    ranking deficit weights = (ranking deficit (positive weights)).map (placeOf weights) := by
  unfold ranking
  dsimp only
  rw [totalWeight_positive, ← claims, ← claims, claims_positive, claims_eq, List.map_map]
  rw [← List.map_mergeSort (r := fun a b : Int × Nat =>
    remainder deficit (totalWeight weights) b.1 ≤ remainder deficit (totalWeight weights) a.1)
    fun _ _ _ _ => rfl, List.map_map]
  rfl

theorem favoured_eq (deficit : Int) (weights : List Int) :
    favoured deficit weights = (favoured deficit (positive weights)).map (placeOf weights) := by
  rw [favoured, favoured, ranking_eq, leftover_positive, List.map_take]

theorem placeOf_mem_favoured (h : place < (positive weights).length) :
    placeOf weights place ∈ favoured deficit weights ↔
      place ∈ favoured deficit (positive weights) := by
  rw [favoured_eq]
  constructor
  · intro found
    obtain ⟨other, listed, same⟩ := List.mem_map.1 found
    obtain ⟨weight, there, -⟩ := weight_pos_of_mem_favoured listed
    rwa [← placeOf_injective (List.getElem?_eq_some_iff.1 there).1 h same]
  · exact List.mem_map_of_mem

/-- What is worked out for each weight and its place, listed beside the weights. -/
theorem zip_map_zipIdx (weights : List Int) (f : Int × Nat → Int) :
    weights.zip (weights.zipIdx.map f) = weights.zipIdx.map fun claim => (claim.1, f claim) := by
  calc weights.zip (weights.zipIdx.map f)
      = (weights.zipIdx.map Prod.fst).zip (weights.zipIdx.map f) := by rw [List.zipIdx_map_fst]
    _ = weights.zipIdx.map fun claim => (claim.1, f claim) := List.zip_map'

/-- Sources without weight may be left out: the others pay the same without them. -/
theorem allocate_positive (deficit : Int) (weights : List Int) :
    allocate deficit (positive weights) =
      ((weights.zip (allocate deficit weights)).filter (0 < ·.1)).map (·.2) := by
  -- at every place `share` is what is paid there
  obtain ⟨share, whole, part⟩ : ∃ share : Int → Nat → Int,
      allocate deficit weights = weights.zipIdx.map (fun claim => share claim.1 claim.2) ∧
      allocate deficit (positive weights) = (positive weights).zipIdx.map
        fun claim => share claim.1 (placeOf weights claim.2) := by
    unfold allocate
    rw [totalWeight_positive]
    split
    · exact ⟨fun _ _ => 0, by simp [List.map_const'], by simp [List.map_const']⟩
    · refine ⟨fun weight place => quota deficit (totalWeight weights) weight +
        if place ∈ favoured deficit weights then 1 else 0, rfl, ?_⟩
      refine List.map_congr_left fun claim hc => ?_
      obtain ⟨-, within, -⟩ := List.mem_zipIdx hc
      rw [Nat.zero_add] at within
      simp only [placeOf_mem_favoured within]
  rw [whole, part, zip_map_zipIdx, List.filter_map, List.map_map]
  show _ = (claims weights).map _
  rw [claims_eq, List.map_map]
  rfl

end Paymaster.Allocation
