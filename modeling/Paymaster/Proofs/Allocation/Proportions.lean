import Paymaster.Proofs.Allocation.Fairness

/-
  Only the proportions of the positive weights matter.
  A factor common to all weights multiplies the total and every remainder. So it leaves the whole
  parts, the ranking and the units left over as they are (`allocate_scaled`).
  The parts are those of the positive weights alone, filled up with zeros at the places of the
  others (`allocate_eq_spread`). So sources without weight can come and go at any places: the
  others pay the same, and these pay nothing (`allocate_proportional`).
-/

namespace Paymaster.Allocation

variable {deficit : Int} {weights : List Int} {place : Nat} {weight : Int}

/-! ## A common factor -/

section
variable {factor : Int} (scaled : 0 < factor)
include scaled

theorem max_mul_zero (weight : Int) : max (factor * weight) 0 = factor * max weight 0 := by
  rw [mul_max_of_nonneg _ _ (Int.le_of_lt scaled), Int.mul_zero]

theorem quota_scaled (deficit total weight : Int) :
    quota deficit (factor * total) (factor * weight) = quota deficit total weight := by
  unfold quota
  rw [max_mul_zero scaled, Int.mul_left_comm, Int.mul_ediv_mul_of_pos _ _ scaled]

theorem remainder_scaled (deficit total weight : Int) :
    remainder deficit (factor * total) (factor * weight) =
      factor * remainder deficit total weight := by
  unfold remainder
  rw [Int.mul_left_comm, Int.mul_emod_mul_of_pos _ _ scaled]

theorem totalWeight_scaled (weights : List Int) :
    totalWeight (weights.map (factor * ·)) = factor * totalWeight weights := by
  unfold totalWeight
  induction weights with
  | nil => simp
  | cons weight weights ih =>
    simp only [List.map_cons, List.foldr_cons] at ih ⊢
    rw [ih, max_mul_zero scaled, Int.mul_add]

theorem claims_scaled (weights : List Int) :
    claims (weights.map (factor * ·)) =
      (claims weights).map fun claim => (factor * claim.1, claim.2) := by
  unfold claims
  rw [List.zipIdx_map, List.filter_map]
  congr 1
  refine List.filter_congr fun claim _ => ?_
  simp [scaled]

theorem ranking_scaled (deficit : Int) (weights : List Int) :
    ranking deficit (weights.map (factor * ·)) = ranking deficit weights := by
  unfold ranking
  dsimp only
  rw [← claims, ← claims, claims_scaled scaled, totalWeight_scaled scaled]
  rw [← List.map_mergeSort (r := noSmaller deficit (totalWeight weights)), List.map_map]
  · rfl
  · intro a _ b _
    unfold noSmaller
    rw [remainder_scaled scaled, remainder_scaled scaled]
    simp [scaled]

theorem leftover_scaled (deficit : Int) (weights : List Int) :
    leftover deficit (weights.map (factor * ·)) = leftover deficit weights := by
  unfold leftover
  rw [totalWeight_scaled scaled, List.map_map]
  congr 2
  refine List.map_congr_left fun weight _ => ?_
  exact quota_scaled scaled deficit (totalWeight weights) weight

/-- Multiplying all weights by one factor changes nothing of what is paid. -/
theorem allocate_scaled (deficit : Int) (weights : List Int) :
    allocate deficit (weights.map (factor * ·)) = allocate deficit weights := by
  have idle : factor * totalWeight weights ≤ 0 ↔ totalWeight weights ≤ 0 := by
    rw [← Int.not_lt, ← Int.not_lt, mul_pos_iff_of_pos_left scaled]
  unfold allocate favoured
  simp only [totalWeight_scaled scaled, ranking_scaled scaled, leftover_scaled scaled, idle,
    List.zipIdx_map, List.map_map]
  split
  · rfl
  · refine List.map_congr_left fun claim _ => ?_
    simp [quota_scaled scaled]

end

/-! ## Sources without weight -/

theorem allocate_weightless (listed : weights[place]? = some weight) (weightless : weight ≤ 0) :
    (allocate deficit weights)[place]? = some 0 := by
  by_cases divisible : 0 < deficit ∧ 0 < totalWeight weights
  · exact (divides_allocate divisible.1 divisible.2).weightless place weight listed weightless
  · exact getElem?_allocate_idle divisible listed

theorem eq_zero_of_mem_zip {p : Int × Int} (paid : p ∈ weights.zip (allocate deficit weights))
    (weightless : p.1 ≤ 0) : p.2 = 0 := by
  obtain ⟨place, there⟩ := List.mem_iff_getElem?.1 paid
  obtain ⟨listed, part⟩ := List.getElem?_zip_eq_some.1 there
  rw [allocate_weightless listed weightless] at part
  exact (Option.some.inj part).symm

/-- Parts for the positive weights, with zeros put in at the places of the others. -/
def spread : List Int → List Int → List Int
  | [], _ => []
  | weight :: weights, parts =>
    if 0 < weight then parts.headD 0 :: spread weights parts.tail else 0 :: spread weights parts

/-- Parts that are zero without weight are those of the positive weights, spread out. -/
theorem spread_filter {parts : List Int} (aligned : parts.length = weights.length)
    (zero : ∀ p ∈ weights.zip parts, p.1 ≤ 0 → p.2 = 0) :
    spread weights (((weights.zip parts).filter (0 < ·.1)).map (·.2)) = parts := by
  induction weights generalizing parts with
  | nil =>
    rw [List.length_nil, List.length_eq_zero_iff] at aligned
    rw [aligned]
    rfl
  | cons weight weights ih =>
    obtain ⟨part, parts, rfl⟩ := List.exists_cons_of_length_eq_add_one aligned
    rw [List.zip_cons_cons, List.forall_mem_cons] at zero
    have first : weight ≤ 0 → part = 0 := zero.1
    have rest := ih (by simpa using aligned) zero.2
    by_cases positive : 0 < weight
    · simp [spread, positive, rest]
    · simp [spread, positive, rest, first (Int.not_lt.1 positive)]

/-- What is paid is settled among the positive weights. -/
theorem allocate_eq_spread (deficit : Int) (weights : List Int) :
    allocate deficit weights = spread weights (allocate deficit (positive weights)) := by
  rw [allocate_positive, spread_filter (length_allocate deficit weights)]
  intro p paid weightless
  exact eq_zero_of_mem_zip paid weightless

section
variable {α : Type} {weight : α → Int} {kept : α → Bool} {sources : List α}
  (gone : ∀ source ∈ sources, kept source = false → weight source ≤ 0)
include gone

/-- If those that are left out have no weight, the positive weights stay. -/
theorem positive_filter :
    positive ((sources.filter kept).map weight) = positive (sources.map weight) := by
  unfold positive
  rw [List.filter_map, List.filter_map, List.filter_filter]
  congr 1
  refine List.filter_congr fun source listed => ?_
  by_cases stays : kept source
  · simp [stays]
  · have weightless := gone source listed (by simpa using stays)
    simp [stays, weightless]

/-- Parts that are spread over the sources are as if they were spread over those that stay. -/
theorem zip_spread_filter (parts : List Int) :
    (sources.filter kept).zip (spread ((sources.filter kept).map weight) parts) =
      (sources.zip (spread (sources.map weight) parts)).filter (kept ·.1) := by
  induction sources generalizing parts with
  | nil => rfl
  | cons source sources ih =>
    rw [List.forall_mem_cons] at gone
    by_cases stays : kept source
    · by_cases positive : 0 < weight source <;> simp [spread, stays, positive, ih gone.2]
    · have weightless := gone.1 (by simpa using stays)
      simp [spread, stays, Int.not_lt.2 weightless, ih gone.2]

/-- Sources without weight may be left out, wherever they stand: the others pay the same. -/
theorem zip_allocate_filter (deficit : Int) :
    (sources.filter kept).zip (allocate deficit ((sources.filter kept).map weight)) =
      (sources.zip (allocate deficit (sources.map weight))).filter (kept ·.1) := by
  rw [allocate_eq_spread, positive_filter gone, zip_spread_filter gone, ← allocate_eq_spread]

theorem eq_zero_of_not_kept {source : α} {part : Int}
    (paid : (source, part) ∈ sources.zip (allocate deficit (sources.map weight)))
    (leftOut : kept source = false) : part = 0 := by
  have weightless := gone source (List.of_mem_zip paid).1 leftOut
  have weighed : (weight source, part) ∈
      (sources.map weight).zip (allocate deficit (sources.map weight)) := by
    rw [List.zip_map_left]
    exact List.mem_map_of_mem paid
  exact eq_zero_of_mem_zip weighed weightless

end

/-- Who pays something is the same with and without the sources of no weight. -/
theorem parts_positive {α κ : Type} (deficit : Int) (key : α → κ) (weight : α → Int)
    (sources : List α) :
    (((sources.filter (0 < weight ·)).map key).zip
        (allocate deficit ((sources.filter (0 < weight ·)).map weight))).filter (0 < ·.2) =
      ((sources.map key).zip (allocate deficit (sources.map weight))).filter (0 < ·.2) := by
  have gone : ∀ source ∈ sources, decide (0 < weight source) = false → weight source ≤ 0 := by
    intro source _ leftOut
    exact Int.not_lt.1 (of_decide_eq_false leftOut)
  rw [List.zip_map_left, zip_allocate_filter gone, List.zip_map_left, List.filter_map,
    List.filter_map, List.filter_filter]
  refine congrArg (List.map _) (List.filter_congr fun p paid => ?_)
  have idle := eq_zero_of_not_kept gone paid
  by_cases weighty : 0 < weight p.1
  · simp [weighty]
  · simp [weighty, idle (decide_eq_false weighty)]

/-- What is paid depends on the proportions of the positive weights only. A factor common to all
weights changes nothing; and whoever is put in or left out without having weight, at whatever
places, pays nothing and changes nothing of what the others pay. -/
theorem allocate_proportional (deficit : Int) :
    (∀ (weights : List Int) (factor : Int), 1 ≤ factor →
      allocate deficit (weights.map (factor * ·)) = allocate deficit weights) ∧
    ∀ {α : Type} (weight : α → Int) (kept : α → Bool) (sources : List α),
      (∀ source ∈ sources, kept source = false → weight source ≤ 0) →
        (sources.filter kept).zip (allocate deficit ((sources.filter kept).map weight)) =
          (sources.zip (allocate deficit (sources.map weight))).filter (kept ·.1) ∧
        ∀ source part, (source, part) ∈ sources.zip (allocate deficit (sources.map weight)) →
          kept source = false → part = 0 := by
  constructor
  · intro weights factor scaled
    exact allocate_scaled scaled deficit weights
  · intro α weight kept sources gone
    refine ⟨zip_allocate_filter gone deficit, ?_⟩
    intro source part paid leftOut
    exact eq_zero_of_not_kept gone paid leftOut

/-- Ten units for two thirds, nothing and one third: with the weights fourfold, and with a source of
weight zero put in before them and one of negative weight between them. -/
theorem allocate_proportional_thirds :
    allocate 10 [8, 0, 4] = allocate 10 [2, 0, 1] ∧
      let sources : List (Int × Bool) := [(0, false), (2, true), (-7, false), (0, true), (1, true)]
      [(2, true), (0, true), (1, true)].zip (allocate 10 [2, 0, 1]) =
        (sources.zip (allocate 10 [0, 2, -7, 0, 1])).filter (·.1.2) := by
  refine ⟨(allocate_proportional 10).1 [2, 0, 1] 4 (by decide), ?_⟩
  intro sources
  have gone : ∀ source ∈ sources, source.2 = false → source.1 ≤ 0 := by decide
  exact ((allocate_proportional 10).2 (·.1) (·.2) sources gone).1

end Paymaster.Allocation
