import Mathlib
import Paymaster.Proofs.Allocation.Ranking

/-
  What each source pays.
  A source is due its share of the deficit in proportion to its weight, exactly (`due`). The parts
  that are paid are whole: together they are the deficit, and each is what is due, rounded down or
  up (`allocate_divides`). It is rounded up just for the sources whose remainders rank among as
  many of the largest as there are units left over (`allocate_leftover`).
-/

namespace Paymaster.Allocation

variable {deficit : Int} {weights : List Int} {place : Nat} {weight : Int}

/-- What a source of a weight is due: its share of the deficit, and nothing if it has no weight. -/
def due (deficit : Int) (weights : List Int) (weight : Int) : ℚ :=
  if 0 < weight then (deficit * weight : Int) / (positive weights).sum else 0

/-- The units left over once everyone has the whole part of what is due. -/
def spare (deficit : Int) (weights : List Int) : Int :=
  deficit - ((positive weights).map fun weight => ⌊due deficit weights weight⌋).sum

theorem totalWeight_pos_iff : 0 < totalWeight weights ↔ ∃ weight ∈ weights, 0 < weight := by
  rw [totalWeight_eq_sum]
  constructor
  · intro weighty
    obtain ⟨w, hw⟩ := List.exists_mem_of_ne_nil (positive weights) fun none => by
      simp [none] at weighty
    exact ⟨w, mem_positive.1 hw⟩
  · rintro ⟨w, hw, weighty⟩
    have least (v : Int) (hv : v ∈ positive weights) : 0 ≤ v :=
      Int.le_of_lt (mem_positive.1 hv).2
    have listed : w ∈ positive weights := mem_positive.2 ⟨hw, weighty⟩
    exact Int.lt_of_lt_of_le weighty (List.single_le_sum least w listed)

section
variable (weighty : 0 < totalWeight weights)
include weighty

theorem floor_due (deficit weight : Int) :
    ⌊due deficit weights weight⌋ = quota deficit (totalWeight weights) weight := by
  unfold due
  split
  · rename_i positive
    obtain ⟨total, whole⟩ := Int.eq_ofNat_of_zero_le (Int.le_of_lt weighty)
    rw [quota_of_pos _ _ positive, ← totalWeight_eq_sum, whole]
    exact Rat.floor_intCast_div_natCast _ _
  · rename_i weightless
    rw [Int.floor_zero, quota_of_nonpos _ _ (Int.not_lt.1 weightless)]

/-- What is due has a remainder just if it is not whole. -/
theorem due_ne_intCast (rest : 0 < remainder deficit (totalWeight weights) weight) (cents : Int)
    (positive : 0 < weight) : due deficit weights weight ≠ cents := by
  intro whole
  have total : (totalWeight weights : ℚ) ≠ 0 := Int.cast_ne_zero.2 weighty.ne'
  rw [due, if_pos positive, ← totalWeight_eq_sum, div_eq_iff total] at whole
  have product : deficit * weight = cents * totalWeight weights := by exact_mod_cast whole
  rw [remainder, product, Int.mul_emod_left] at rest
  exact absurd rest (Int.lt_irrefl 0)

theorem spare_eq_leftover (deficit : Int) : spare deficit weights = leftover deficit weights := by
  rw [spare, leftover_eq, List.map_congr_left fun w hw => ?_]
  rw [floor_due weighty, quota_of_pos _ _ (mem_positive.1 hw).2]

end

/-! ## The parts -/

theorem sum_map_ite {α : Type} (p : α → Prop) [DecidablePred p] (l : List α) :
    (l.map fun a => if p a then (1 : Int) else 0).sum = l.countP p := by
  induction l with
  | nil => rfl
  | cons a l ih =>
    rw [List.map_cons, List.sum_cons, List.countP_cons, ih]
    by_cases h : p a <;> simp [h, Int.add_comm]

section
variable (owing : 0 < deficit) (weighty : 0 < totalWeight weights)
include owing weighty

theorem allocate_eq : allocate deficit weights = weights.zipIdx.map fun claim =>
    quota deficit (totalWeight weights) claim.1 +
      if claim.2 ∈ favoured deficit weights then 1 else 0 := by
  rw [allocate, if_neg (by omega)]

/-- A source pays the whole part of what it is due, and one unit more if its place is favoured. -/
theorem getElem?_allocate (listed : weights[place]? = some weight) :
    (allocate deficit weights)[place]? = some (⌊due deficit weights weight⌋ +
      if place ∈ favoured deficit weights then 1 else 0) := by
  rw [allocate_eq owing weighty, List.getElem?_map, List.getElem?_zipIdx, listed,
    floor_due weighty]
  simp

omit owing in
/-- One unit for each favoured place makes as many as are left over. -/
theorem sum_favoured : (weights.zipIdx.map fun claim : Int × Nat =>
    if claim.2 ∈ favoured deficit weights then (1 : Int) else 0).sum =
      leftover deficit weights := by
  have places : ((List.range weights.length).filter (· ∈ favoured deficit weights)).Perm
      (favoured deficit weights) := by
    refine (List.perm_ext_iff_of_nodup (List.nodup_range.filter _) (nodup_favoured _ _)).2
      fun place => ?_
    rw [List.mem_filter, decide_eq_true_eq, List.mem_range]
    refine ⟨And.right, fun favoured => ⟨?_, favoured⟩⟩
    obtain ⟨weight, listed, -⟩ := weight_pos_of_mem_favoured favoured
    exact (List.getElem?_eq_some_iff.1 listed).1
  rw [sum_map_ite, ← length_favoured weighty, ← places.length_eq, ← List.countP_eq_length_filter,
    List.range_eq_range', ← List.zipIdx_map_snd 0 weights, List.countP_map]
  rfl

theorem sum_allocate : (allocate deficit weights).sum = deficit := by
  have wholes : (weights.zipIdx.map fun claim : Int × Nat =>
      quota deficit (totalWeight weights) claim.1).sum = deficit - leftover deficit weights := by
    show (weights.zipIdx.map (quota deficit (totalWeight weights) ∘ Prod.fst)).sum = _
    rw [← List.map_map, List.zipIdx_map_fst, leftover, sub_sub_cancel]
    rfl
  rw [allocate_eq owing weighty, List.sum_map_add, sum_favoured weighty, wholes]
  omega

theorem allocate_nonneg {part : Int} (paid : part ∈ allocate deficit weights) : 0 ≤ part := by
  rw [allocate_eq owing weighty] at paid
  obtain ⟨⟨weight, place⟩, -, rfl⟩ := List.mem_map.1 paid
  have whole := quota_nonneg (Int.le_of_lt owing) (Int.le_of_lt weighty) weight
  dsimp only
  split <;> omega

end

/-! ## Exact and fair -/

/-- The parts make up the deficit, and each source pays what it is due to within one unit. -/
structure Divides (deficit : Int) (weights parts : List Int) : Prop where
  /-- Together they are the deficit. -/
  sum : parts.sum = deficit
  nonneg : ∀ part ∈ parts, 0 ≤ part
  /-- Without weight nothing is paid. -/
  weightless : ∀ (place : Nat) (weight : Int), weights[place]? = some weight → weight ≤ 0 →
    parts[place]? = some 0
  /-- What is due is rounded down or up. -/
  rounded : ∀ (place : Nat) (weight : Int), weights[place]? = some weight → 0 < weight →
    parts[place]? = some ⌊due deficit weights weight⌋ ∨
      parts[place]? = some ⌈due deficit weights weight⌉
  /-- What is due and whole is paid as it is. -/
  whole : ∀ (place : Nat) (weight cents : Int), weights[place]? = some weight → 0 < weight →
    due deficit weights weight = cents → parts[place]? = some cents

theorem divides_allocate (owing : 0 < deficit) (weighty : 0 < totalWeight weights) :
    Divides deficit weights (allocate deficit weights) := by
  have part {place : Nat} {weight : Int} (listed : weights[place]? = some weight) :=
    getElem?_allocate owing weighty listed
  have broken {place : Nat} {weight : Int} (listed : weights[place]? = some weight)
      (positive : 0 < weight) (favoured : place ∈ favoured deficit weights) (cents : Int) :
      due deficit weights weight ≠ cents :=
    due_ne_intCast weighty (remainder_pos weighty listed favoured) cents positive
  exact {
    sum := sum_allocate owing weighty
    nonneg := fun _ paid => allocate_nonneg owing weighty paid
    weightless := fun place weight listed none => by
      have passed : place ∉ favoured deficit weights := fun favoured =>
        absurd ((mem_favoured_iff listed).1 favoured).1 (Int.not_lt.2 none)
      rw [part listed, if_neg passed, floor_due weighty, quota_of_nonpos _ _ none, Int.add_zero]
    rounded := fun place weight listed positive => by
      rw [part listed]
      split
      · rename_i favoured
        refine .inr (congrArg some (Int.ceil_eq_floor_add_one_iff_notMem _ |>.2 ?_).symm)
        rintro ⟨cents, same⟩
        exact broken listed positive favoured cents same.symm
      · exact .inl (congrArg some (Int.add_zero _))
    whole := fun place weight cents listed positive same => by
      have passed : place ∉ favoured deficit weights := fun favoured =>
        broken listed positive favoured cents same
      rw [part listed, if_neg passed, same, Int.floor_intCast, Int.add_zero] }

/-- A deficit is divided exactly and fairly among sources of which one has weight; else nobody
pays. -/
theorem allocate_divides (deficit : Int) (weights : List Int) :
    (allocate deficit weights).length = weights.length ∧
      if 0 < deficit ∧ ∃ weight ∈ weights, 0 < weight then
        Divides deficit weights (allocate deficit weights)
      else allocate deficit weights = List.replicate weights.length 0 := by
  refine ⟨length_allocate deficit weights, ?_⟩
  split
  · rename_i divisible
    exact divides_allocate divisible.1 (totalWeight_pos_iff.2 divisible.2)
  · rename_i idle
    rw [← totalWeight_pos_iff] at idle
    rw [allocate, if_pos (by omega), List.map_const']

/-! ## The units left over -/

/-- The units left over go one each to the sources that rank first: a source pays a unit more than
the whole part of what it is due just if it has weight and fewer claims are ahead of its own than
there are units, and else it pays the whole part. -/
theorem allocate_leftover (owing : 0 < deficit) (weighty : ∃ weight ∈ weights, 0 < weight)
    (listed : weights[place]? = some weight) :
    ((allocate deficit weights)[place]? = some (⌊due deficit weights weight⌋ + 1) ↔
      0 < weight ∧
        (countAhead deficit weights (weight, place) : Int) < spare deficit weights) ∧
    (¬(0 < weight ∧ (countAhead deficit weights (weight, place) : Int) < spare deficit weights) →
      (allocate deficit weights)[place]? = some ⌊due deficit weights weight⌋) := by
  have total := totalWeight_pos_iff.2 weighty
  rw [spare_eq_leftover total, ← mem_favoured_iff listed, getElem?_allocate owing total listed]
  by_cases favoured : place ∈ favoured deficit weights <;> simp [favoured]

/-- Of three equal claims to ten units, the first gets the one that is left over. -/
theorem allocate_leftover_thirds :
    (allocate 10 [1, -4, 1, 1])[0]? = some 4 ∧ (allocate 10 [1, -4, 1, 1])[2]? = some 3 := by
  have weighty : ∃ weight ∈ [1, -4, 1, (1 : Int)], 0 < weight := by decide
  have owing : (0 : Int) < 10 := by decide
  have foremost : [1, -4, 1, (1 : Int)][0]? = some 1 := rfl
  have middle : [1, -4, 1, (1 : Int)][2]? = some 1 := rfl
  have whole : ⌊due 10 [1, -4, 1, 1] 1⌋ = 3 := by decide +kernel
  have first := allocate_leftover owing weighty foremost
  have second := allocate_leftover owing weighty middle
  rw [whole] at first second
  exact ⟨first.1.2 (by decide +kernel), second.2 (by decide +kernel)⟩

end Paymaster.Allocation
