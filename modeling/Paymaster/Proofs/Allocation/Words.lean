import Paymaster.Proofs.Allocation.Shares

/-
  The split in machine words.
  `allocateWords` splits a deficit of 64 bits by weights of 32 bits as a machine does. It adds,
  multiplies and divides in words of 128 bits, writes each whole part to its place, and adds the
  units left over there one by one. Where a result leaves its word, a place lies outside the list,
  or as many units are left over as there are claims, it stops without a result. Two numbers are
  made to fit instead, a part that is too large and a count of units that is none; `strict` lets
  these stop it as well.

  Nothing of this happens (`allocateWords_eq`): the weights of as many sources as there are words
  of 64 bits add up to less than 2^127, the whole parts to no more than the deficit, and of the
  units left over there are fewer than claims. Either way the outcome is the exact split.
-/

namespace Paymaster.Allocation

/-! ## Arithmetic in words -/

/-- A number that a signed word of so many bits holds; without it the computation stops. -/
def word (bits : Nat) (n : Int) : Option Int :=
  if -2 ^ (bits - 1) ≤ n ∧ n < 2 ^ (bits - 1) then some n else none

/-- A number that is wanted within bounds. One that lies outside stops the computation, or else is
replaced by a stand-in. -/
def convert (strict : Bool) (fits : Bool) (n standIn : Int) : Option Int :=
  if fits then some n else if strict then none else some standIn

/-- A part as a word of 64 bits, or else the greatest of them. -/
def narrow (strict : Bool) (n : Int) : Option Int :=
  convert strict (-2 ^ 63 ≤ n ∧ n < 2 ^ 63) n (2 ^ 63 - 1)

/-- A count of at most 64 bits, or else zero. -/
def count (strict : Bool) (n : Int) : Option Nat :=
  (convert strict (0 ≤ n ∧ n < 2 ^ 64) n 0).map Int.toNat

/-- The quotient, rounded towards zero, and what is left; nothing can be divided by zero. -/
def divide (n total : Int) : Option (Int × Int) := do
  guard (total ≠ 0)
  let whole ← word 128 (n.tdiv total)
  some (whole, n.tmod total)

/-- The list with a part written to a place that it has. -/
def put (parts : List Int) (place : Nat) (part : Int) : Option (List Int) :=
  if place < parts.length then some (parts.set place part) else none

/-- The list with one unit added at a place that it has. -/
def bump (parts : List Int) (place : Nat) : Option (List Int) := do
  let part ← parts[place]?
  let more ← word 64 (part + 1)
  put parts place more

/-! ## The split -/

/-- How far the whole parts have been worked out. -/
structure Tally where
  parts : List Int
  /-- The sum of the whole parts. -/
  allocated : Int
  /-- The remainders, each with its place. -/
  remainders : List (Nat × Int)

/-- Works out the whole part of what one source is due; a source without weight is passed over. -/
def Tally.add (strict : Bool) (deficit total : Int) (t : Tally) (claim : Int × Nat) :
    Option Tally :=
  if claim.1 ≤ 0 then some t
  else do
    let exact ← word 128 (deficit * claim.1)
    let (base, rest) ← divide exact total
    let part ← narrow strict base
    let parts ← put t.parts claim.2 part
    let allocated ← word 128 (t.allocated + base)
    some ⟨parts, allocated, t.remainders ++ [(claim.2, rest)]⟩

/-- The sum of the positive weights. -/
def addWeights (weights : List Int) : Option Int :=
  (positive weights).foldlM (fun sum weight => word 128 (sum + weight)) 0

/-- What each source pays of a deficit, in machine words. -/
def allocateWords (strict : Bool) (deficit : Int64) (weights : List Int32) : Option (List Int) :=
  let weights := weights.map (·.toInt)
  let zeros := weights.map fun _ => 0
  if deficit.toInt ≤ 0 then some zeros
  else do
    let total ← addWeights weights
    if total ≤ 0 then some zeros
    else
      let tally ← weights.zipIdx.foldlM (Tally.add strict deficit.toInt total) ⟨zeros, 0, []⟩
      let ranked := tally.remainders.mergeSort fun a b => b.2 ≤ a.2
      let leftover ← count strict (← word 128 (deficit.toInt - tally.allocated))
      guard (leftover < max ranked.length 1)
      (ranked.take leftover).foldlM (fun parts claim => bump parts claim.1) tally.parts

/-! ## Why nothing leaves its word -/

section
variable {bits : Nat} {n : Int}

theorem word_eq (nonneg : 0 ≤ n) (small : n < 2 ^ (bits - 1)) : word bits n = some n := by
  have least : (0 : Int) < 2 ^ (bits - 1) := by positivity
  rw [word, if_pos ⟨by omega, small⟩]

theorem narrow_eq (strict : Bool) (nonneg : 0 ≤ n) (small : n < 2 ^ 63) :
    narrow strict n = some n := by
  rw [narrow, convert, if_pos (by simp; omega)]

theorem count_eq (strict : Bool) (nonneg : 0 ≤ n) (small : n < 2 ^ 64) :
    count strict n = some n.toNat := by
  rw [count, convert, if_pos (by simp; omega)]
  rfl

theorem divide_eq {total : Int} (nonneg : 0 ≤ n) (positive : 0 < total) (small : n < 2 ^ 127) :
    divide n total = some (n / total, n % total) := by
  have least : 0 ≤ n / total := Int.ediv_nonneg nonneg (Int.le_of_lt positive)
  have most : n / total ≤ n := Int.ediv_le_self _ nonneg
  rw [divide, Int.tdiv_eq_ediv_of_nonneg nonneg, Int.tmod_eq_emod_of_nonneg nonneg,
    word_eq least (Int.lt_of_le_of_lt most small)]
  simp [guard, positive.ne']

end

/-! ## The weights -/

/-- Numbers that are not negative can be added up if their sum fits. -/
theorem foldlM_word {l : List Int} (nonneg : ∀ n ∈ l, 0 ≤ n) {sum : Int} (start : 0 ≤ sum)
    (small : sum + l.sum < 2 ^ 127) :
    l.foldlM (fun sum n => word 128 (sum + n)) sum = some (sum + l.sum) := by
  induction l generalizing sum with
  | nil => simp
  | cons n l ih =>
    obtain ⟨first, others⟩ := List.forall_mem_cons.1 nonneg
    have rest := List.sum_nonneg others
    rw [List.sum_cons] at small ⊢
    rw [List.foldlM_cons, word_eq (by omega) (by omega)]
    refine (ih others (by omega) (by omega)).trans ?_
    rw [Int.add_assoc]

/-- As many weights as there are words of 64 bits can be added up. -/
theorem totalWeight_lt {weights : List Int32} (few : weights.length ≤ 2 ^ 64) :
    totalWeight (weights.map (·.toInt)) < 2 ^ 127 := by
  have each : ∀ w ∈ positive (weights.map (·.toInt)), w ≤ 2 ^ 31 := fun w hw => by
    obtain ⟨weight, -, rfl⟩ := List.mem_map.1 (mem_positive.1 hw).1
    have := weight.toInt_lt
    omega
  have number : (positive (weights.map (·.toInt))).length ≤ weights.length := by
    simpa [positive] using List.length_filter_le (0 < ·) (weights.map (·.toInt))
  have sum := List.sum_le_card_nsmul _ _ each
  rw [totalWeight_eq_sum]
  simp only [nsmul_eq_mul] at sum
  omega

theorem addWeights_eq {weights : List Int} (small : totalWeight weights < 2 ^ 127) :
    addWeights weights = some (totalWeight weights) := by
  have nonneg : ∀ w ∈ positive weights, 0 ≤ w := fun w hw => Int.le_of_lt (mem_positive.1 hw).2
  rw [totalWeight_eq_sum] at small
  rw [addWeights, foldlM_word nonneg (Int.le_refl 0) (by omega), totalWeight_eq_sum, Int.zero_add]

/-! ## The whole parts -/

/-- What has been worked out once the weights `done` are through and `todo` are not. -/
def Tally.after (deficit total : Int) (done todo : List Int) : Tally where
  parts := done.map (quota deficit total) ++ todo.map fun _ => 0
  allocated := (done.map (quota deficit total)).sum
  remainders := (claims done).map fun claim => (claim.2, remainder deficit total claim.1)

theorem claims_concat (weights : List Int) (weight : Int) : claims (weights ++ [weight]) =
    claims weights ++ if 0 < weight then [(weight, weights.length)] else [] := by
  simp [claims, List.zipIdx_append, List.filter_append, List.filter_cons]

section
variable {strict : Bool} {deficit total : Int}

theorem sum_quota_nonneg (owing : 0 ≤ deficit) (weighty : 0 ≤ total) (weights : List Int) :
    0 ≤ (weights.map (quota deficit total)).sum :=
  List.sum_nonneg fun n hn => by
    obtain ⟨w, -, rfl⟩ := List.mem_map.1 hn
    exact quota_nonneg owing weighty w

theorem put_append {front back : List Int} {place : Nat} (length : front.length = place)
    (old new : Int) : put (front ++ old :: back) place new = some (front ++ new :: back) := by
  subst length
  rw [put, if_pos (by simp)]
  simp

/-- One more weight is worked out. -/
theorem Tally.add_after (owing : 0 < deficit) (small : deficit < 2 ^ 63) (weighty : 0 < total)
    {done todo : List Int} {weight : Int} (light : weight < 2 ^ 31)
    (within : (done.map (quota deficit total)).sum + quota deficit total weight ≤ deficit) :
    Tally.add strict deficit total (.after deficit total done (weight :: todo))
      (weight, done.length) = some (.after deficit total (done ++ [weight]) todo) := by
  have before := sum_quota_nonneg (Int.le_of_lt owing) (Int.le_of_lt weighty) done
  have here := quota_nonneg (Int.le_of_lt owing) (Int.le_of_lt weighty) weight
  by_cases positive : 0 < weight
  · have quotient := quota_of_pos deficit total positive
    have exact_nonneg : 0 ≤ deficit * weight := by positivity
    have exact_lt : deficit * weight < 2 ^ 127 := by nlinarith
    rw [quotient] at within here
    have part := narrow_eq strict here (by omega)
    have sum : word 128 ((done.map (quota deficit total)).sum + deficit * weight / total) =
      some ((done.map (quota deficit total)).sum + deficit * weight / total) :=
        word_eq (by omega) (by omega)
    have place : (done.map (quota deficit total)).length = done.length := List.length_map _
    rw [Tally.add, if_neg (Int.not_le.2 positive), word_eq exact_nonneg exact_lt]
    simp only [Option.bind_eq_bind, Option.bind_some, divide_eq exact_nonneg weighty exact_lt, part,
      Tally.after, List.map_cons, put_append place, sum]
    simp [claims_concat, positive, quotient, remainder]
  · have nothing := quota_of_nonpos deficit total (Int.not_lt.1 positive)
    rw [Tally.add, if_pos (Int.not_lt.1 positive)]
    simp [Tally.after, claims_concat, positive, nothing]

/-- The whole parts of all weights are worked out, if they come to no more than the deficit. -/
theorem Tally.foldlM_add (owing : 0 < deficit) (small : deficit < 2 ^ 63) (weighty : 0 < total)
    (done todo : List Int) (light : ∀ w ∈ todo, w < 2 ^ 31)
    (within : ((done ++ todo).map (quota deficit total)).sum ≤ deficit) :
    (todo.zipIdx done.length).foldlM (Tally.add strict deficit total)
      (.after deficit total done todo) = some (.after deficit total (done ++ todo) []) := by
  induction todo generalizing done with
  | nil => simp
  | cons weight todo ih =>
    obtain ⟨first, others⟩ := List.forall_mem_cons.1 light
    have rest := sum_quota_nonneg (Int.le_of_lt owing) (Int.le_of_lt weighty) todo
    have here : (done.map (quota deficit total)).sum + quota deficit total weight ≤ deficit := by
      rw [List.map_append, List.sum_append, List.map_cons, List.sum_cons] at within
      omega
    rw [List.append_cons] at within ⊢
    rw [List.zipIdx_cons, List.foldlM_cons, add_after owing small weighty first here]
    have step := ih _ others within
    rwa [List.length_append] at step

end

/-! ## The units left over -/

/-- One unit is added at each of some places, if all of these can take it. -/
theorem foldlM_bump {places : List Nat} (distinct : places.Nodup) {parts : List Int}
    (room : ∀ place ∈ places, ∃ part, parts[place]? = some part ∧ 0 ≤ part ∧ part + 1 < 2 ^ 63) :
    places.foldlM bump parts =
      some (parts.zipIdx.map fun part => part.1 + if part.2 ∈ places then 1 else 0) := by
  induction places generalizing parts with
  | nil => simp [List.zipIdx_map_fst]
  | cons place places ih =>
    obtain ⟨other, distinct⟩ := List.nodup_cons.1 distinct
    obtain ⟨⟨part, here, least, most⟩, room⟩ := List.forall_mem_cons.1 room
    have inside := (List.getElem?_eq_some_iff.1 here).1
    have bumped : bump parts place = some (parts.set place (part + 1)) := by
      rw [bump, here, Option.bind_eq_bind, Option.bind_some,
        word_eq (by omega) (by omega : part + 1 < 2 ^ (64 - 1)), Option.bind_some, put,
        if_pos inside]
    rw [List.foldlM_cons, bumped, Option.bind_eq_bind, Option.bind_some, ih distinct]
    · refine congrArg some (List.ext_getElem? fun i => ?_)
      rw [List.getElem?_map, List.getElem?_map, List.getElem?_zipIdx, List.getElem?_zipIdx]
      by_cases same : i = place
      · rw [same, List.getElem?_set_self inside, here]
        simp [other]
      · rw [List.getElem?_set_ne (Ne.symm same)]
        simp [Function.comp_def, same]
    · intro p hp
      have apart : place ≠ p := fun same => other (same ▸ hp)
      rw [List.getElem?_set_ne apart]
      exact room p hp

section
variable {deficit : Int} {weights : List Int}

/-- Fewer units are left over than there are claims. -/
theorem leftover_lt (weighty : 0 < totalWeight weights) (deficit : Int) :
    leftover deficit weights < (claims weights).length := by
  have each : ∀ r ∈ (positive weights).map (remainder deficit (totalWeight weights)),
      r ≤ totalWeight weights - 1 := fun r hr => by
    obtain ⟨w, -, rfl⟩ := List.mem_map.1 hr
    exact Int.le_sub_one_of_lt (remainder_bounds weighty deficit w).2
  have some_claim : 0 < (positive weights).length := by
    refine List.length_pos_iff.2 fun none => ?_
    rw [totalWeight_eq_sum, none] at weighty
    cases weighty
  have sum := List.sum_le_card_nsmul _ _ each
  rw [← mul_leftover, List.length_map, nsmul_eq_mul] at sum
  rw [← length_positive]
  nlinarith

theorem leftover_le (owing : 0 ≤ deficit) (weighty : 0 ≤ totalWeight weights) :
    leftover deficit weights ≤ deficit := by
  have wholes := sum_quota_nonneg owing weighty weights
  show deficit - (weights.map _).sum ≤ deficit
  omega

/-- The places of the remainders, sorted, are those of the ranking. -/
theorem ranking_of_remainders (deficit : Int) (weights : List Int) :
    ((Tally.after deficit (totalWeight weights) weights []).remainders.mergeSort
        fun a b => b.2 ≤ a.2).map (·.1) = ranking deficit weights := by
  have sorted := List.map_mergeSort (r := noSmaller deficit (totalWeight weights))
    (s := fun a b : Nat × Int => b.2 ≤ a.2) (l := claims weights)
    (f := fun claim => (claim.2, remainder deficit (totalWeight weights) claim.1))
    fun _ _ _ _ => rfl
  rw [Tally.after, ← sorted, List.map_map]
  rfl

/-- Whoever is favoured can take one unit more than the whole part. -/
theorem foldlM_bump_favoured (owing : 0 < deficit) (small : deficit < 2 ^ 63)
    (weighty : 0 < totalWeight weights) :
    (favoured deficit weights).foldlM bump (weights.map (quota deficit (totalWeight weights))) =
      some (allocate deficit weights) := by
  rw [foldlM_bump (nodup_favoured deficit weights) fun place taken => ?_]
  · rw [allocate_eq owing weighty, List.zipIdx_map, List.map_map]
    rfl
  · obtain ⟨weight, listed, -⟩ := weight_pos_of_mem_favoured taken
    have paid := getElem?_allocate owing weighty listed
    rw [floor_due weighty, if_pos taken] at paid
    have most := List.single_le_sum (fun _ => allocate_nonneg owing weighty) _
      (List.mem_of_getElem? paid)
    rw [sum_allocate owing weighty] at most
    refine ⟨quota deficit (totalWeight weights) weight, ?_, ?_, by omega⟩
    · rw [List.getElem?_map, listed]
      rfl
    · exact quota_nonneg (Int.le_of_lt owing) (Int.le_of_lt weighty) weight

end

/-! ## The whole -/

/-- In machine words the outcome is the exact split, and no number has to be replaced. -/
theorem allocateWords_eq (strict : Bool) (deficit : Int64) {weights : List Int32}
    (few : weights.length ≤ 2 ^ 64) :
    allocateWords strict deficit weights =
      some (allocate deficit.toInt (weights.map (·.toInt))) := by
  have total := addWeights_eq (totalWeight_lt few)
  have small := deficit.toInt_lt
  have light : ∀ w ∈ weights.map (·.toInt), w < 2 ^ 31 := fun w hw => by
    obtain ⟨weight, -, rfl⟩ := List.mem_map.1 hw
    exact weight.toInt_lt
  unfold allocateWords
  generalize weights.map (·.toInt) = weights at total light
  generalize deficit.toInt = deficit at small
  by_cases owing : 0 < deficit
  case neg => simp [Int.not_lt.1 owing, allocate]
  by_cases weighty : 0 < totalWeight weights
  case neg => simp [total, Int.not_lt.1 weighty, allocate]
  have spent : leftover deficit weights =
    deficit - (weights.map (quota deficit (totalWeight weights))).sum := rfl
  have least := leftover_nonneg weighty deficit
  have most := leftover_le (Int.le_of_lt owing) (Int.le_of_lt weighty)
  have fewer := leftover_lt weighty deficit
  have tally : weights.zipIdx.foldlM (Tally.add strict deficit (totalWeight weights))
      ⟨weights.map fun _ => 0, 0, []⟩ = some (.after deficit (totalWeight weights) weights []) :=
    Tally.foldlM_add owing small weighty [] weights light (by rw [List.nil_append]; omega)
  have sorted := ranking_of_remainders deficit weights
  have number : (Tally.after deficit (totalWeight weights) weights []).remainders.length =
    (claims weights).length := List.length_map _
  rw [if_neg (by omega), total]
  simp only [Option.bind_eq_bind, Option.bind_some]
  rw [if_neg (by omega), tally, Option.bind_some]
  show ((word 128 (leftover deficit weights)).bind _) = _
  rw [word_eq least (by omega), Option.bind_some, count_eq strict least (by omega),
    Option.bind_some, List.length_mergeSort, number, guard, if_pos (by omega)]
  show List.foldlM _ _ _ = _
  rw [← foldlM_bump_favoured owing small weighty, favoured, ← sorted, ← List.map_take,
    List.foldlM_map]
  simp [Tally.after]

end Paymaster.Allocation
