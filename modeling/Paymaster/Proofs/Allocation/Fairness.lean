import Paymaster.Proofs.Allocation.Shares

/-
  How the split treats the sources beside each other, and beside every other split.
  Whatever is ahead of a favoured claim is favoured too (`mem_favoured_of_ahead`). So a heavier
  source never pays less than a lighter one, and of two that weigh the same the earlier pays at
  most one unit more (`allocate_monotone`).

  No division of the deficit into whole parts is nearer to what the sources are due
  (`allocate_nearest`). Some bound parts the remainders of favoured places from the others
  (`exists_parting`), and it puts a price on a unit: whatever a source pays instead of its part, its
  distance from what it is due grows by no less than the price of the units between the two
  (`exists_price`). Divisions of one deficit differ by no units on the whole, so the prices of all
  sources cancel (`sum_le_of_price`).
-/

namespace Paymaster.Allocation

variable {deficit : Int} {weights : List Int} {place : Nat} {weight : Int}

/-! ## Ahead of a favoured claim -/

theorem Ahead.trans {total : Int} {a b c : Int × Nat} (h : Ahead deficit total a b)
    (k : Ahead deficit total b c) : Ahead deficit total a c := by
  unfold Ahead at *
  omega

/-- What is ahead of one claim is ahead of every claim behind that. -/
theorem countAhead_le {a b : Int × Nat} (h : Ahead deficit (positive weights).sum a b) :
    countAhead deficit weights a ≤ countAhead deficit weights b := by
  unfold countAhead
  apply List.countP_mono_left
  intro claim _ before
  exact decide_eq_true ((of_decide_eq_true before).trans h)

theorem mem_favoured_of_ahead {first second : Nat} {v w : Int} (hv : weights[first]? = some v)
    (hw : weights[second]? = some w) (positive : 0 < v)
    (ahead : Ahead deficit (totalWeight weights) (v, first) (w, second))
    (taken : second ∈ favoured deficit weights) : first ∈ favoured deficit weights := by
  rw [mem_favoured_iff hv]
  rw [mem_favoured_iff hw] at taken
  rw [totalWeight_eq_sum] at ahead
  have fewer := countAhead_le ahead
  omega

/-! ## Two sources -/

/-- Where nothing is to be split, or nobody has weight, nothing is paid. -/
theorem getElem?_allocate_idle (idle : ¬(0 < deficit ∧ 0 < totalWeight weights))
    (listed : weights[place]? = some weight) :
    (allocate deficit weights)[place]? = some 0 := by
  rw [allocate, if_pos (by omega), List.getElem?_map, listed]
  rfl

/-- Of two claims the heavier one has the larger whole part, or as large a one and the larger
remainder. -/
theorem quota_lt_or_ahead (owing : 0 < deficit) {total : Int} (weighty : 0 < total) {v w : Int}
    (least : 0 < w) (heavier : w < v) (first second : Nat) :
    quota deficit total w < quota deficit total v ∨
      quota deficit total w = quota deficit total v ∧
        Ahead deficit total (v, first) (w, second) := by
  rw [quota_of_pos _ _ least, quota_of_pos _ _ (Int.lt_trans least heavier)]
  have due : deficit * w < deficit * v := Int.mul_lt_mul_of_pos_left heavier owing
  have ordered : deficit * w / total ≤ deficit * v / total :=
    Int.ediv_le_ediv weighty (Int.le_of_lt due)
  rcases Int.lt_or_eq_of_le ordered with less | same
  · exact .inl less
  · refine .inr ⟨same, .inl ?_⟩
    have partedW := Int.mul_ediv_add_emod (deficit * w) total
    have partedV := Int.mul_ediv_add_emod (deficit * v) total
    rw [same] at partedW
    unfold remainder
    dsimp only
    omega

/-- What the lighter of two sources pays is no more than what the heavier one does. -/
theorem lighter_part_le (owing : 0 < deficit) (weighty : 0 < totalWeight weights)
    {first second : Nat} {v w : Int} (hv : weights[first]? = some v)
    (hw : weights[second]? = some w) (heavier : w < v) :
    quota deficit (totalWeight weights) w + (if second ∈ favoured deficit weights then 1 else 0) ≤
      quota deficit (totalWeight weights) v +
        if first ∈ favoured deficit weights then 1 else 0 := by
  rcases Int.lt_or_le 0 w with least | weightless
  · rcases quota_lt_or_ahead owing weighty least heavier first second with less | ⟨same, ahead⟩
    · split <;> split <;> omega
    · have passedOn := mem_favoured_of_ahead hv hw (Int.lt_trans least heavier) ahead
      by_cases taken : second ∈ favoured deficit weights
      · simp [same, taken, passedOn taken]
      · rw [if_neg taken, same]
        split <;> omega
  · have nothing := quota_of_nonpos deficit (totalWeight weights) weightless
    have whole := quota_nonneg (Int.le_of_lt owing) (Int.le_of_lt weighty) v
    have passed : second ∉ favoured deficit weights := by
      rw [mem_favoured_iff hw]
      omega
    rw [if_neg passed, nothing]
    split <;> omega

/-- Of two sources of one weight the later is not favoured unless the earlier is. -/
theorem mem_favoured_of_earlier {first second : Nat} (earlier : first < second)
    (hv : weights[first]? = some weight) (hw : weights[second]? = some weight)
    (taken : second ∈ favoured deficit weights) : first ∈ favoured deficit weights := by
  have positive := ((mem_favoured_iff hw).1 taken).1
  exact mem_favoured_of_ahead hv hw positive (.inr ⟨rfl, earlier⟩) taken

/-- A heavier source never pays less than a lighter one, wherever they stand; of two sources of one
weight the earlier pays as much as the later, or one unit more. -/
theorem allocate_monotone (deficit : Int) {first second : Nat} {v w : Int}
    (hv : weights[first]? = some v) (hw : weights[second]? = some w) :
    ∃ a b, (allocate deficit weights)[first]? = some a ∧
      (allocate deficit weights)[second]? = some b ∧
        (w < v → b ≤ a) ∧ (v = w → first < second → a - b = 0 ∨ a - b = 1) := by
  by_cases divisible : 0 < deficit ∧ 0 < totalWeight weights
  · obtain ⟨owing, weighty⟩ := divisible
    refine ⟨_, _, getElem?_allocate owing weighty hv, getElem?_allocate owing weighty hw, ?_, ?_⟩
    · intro heavier
      rw [floor_due weighty, floor_due weighty]
      exact lighter_part_le owing weighty hv hw heavier
    · intro same earlier
      subst same
      by_cases taken : second ∈ favoured deficit weights
      · simp [taken, mem_favoured_of_earlier earlier hv hw taken]
      · rw [if_neg taken]
        split <;> omega
  · refine ⟨0, 0, getElem?_allocate_idle divisible hv, getElem?_allocate_idle divisible hw, ?_, ?_⟩
    · intro _
      exact Int.le_refl 0
    · intro _ _
      exact .inl rfl

/-- Of five units the lighter source is due one and two thirds, and the heavier three and a third.
The unit left over goes to the lighter one, which still pays no more. -/
theorem allocate_monotone_lightRemainder :
    ∃ a b, (allocate 5 [1, -4, 2])[2]? = some a ∧ (allocate 5 [1, -4, 2])[0]? = some b ∧
      b ≤ a := by
  have hv : [1, -4, (2 : Int)][2]? = some 2 := rfl
  have hw : [1, -4, (2 : Int)][0]? = some 1 := rfl
  obtain ⟨a, b, ha, hb, heavier, -⟩ := allocate_monotone 5 hv hw
  exact ⟨a, b, ha, hb, heavier (by decide)⟩

/-! ## Every other split -/

/-- The parts are whole, one for each source, and make up the deficit. -/
structure IsDivision (deficit : Int) (weights parts : List Int) : Prop where
  length : parts.length = weights.length
  sum : parts.sum = deficit

/-- How far a part is from what is due to a source of a weight, in fractions of a unit of which the
total weight makes one. -/
def distanceFrom (deficit total weight part : Int) : Int :=
  |total * part - if 0 < weight then deficit * weight else 0|

/-- How far the parts are from what is due, over all sources. -/
def distance (deficit : Int) (weights parts : List Int) : Int :=
  (List.zipWith (distanceFrom deficit (positive weights).sum) weights parts).sum

/-- A price that holds for the units at every place holds for the units of the whole lists. -/
theorem sum_le_of_price (f : Int → Int → Int) (price : Int) {weights parts others : List Int}
    (length : parts.length = weights.length) (lengthOthers : others.length = weights.length)
    (each : ∀ (place : Nat) (weight part other : Int), weights[place]? = some weight →
      parts[place]? = some part → others[place]? = some other →
        f weight part + price * (other - part) ≤ f weight other) :
    (List.zipWith f weights parts).sum + price * (others.sum - parts.sum) ≤
      (List.zipWith f weights others).sum := by
  induction weights generalizing parts others with
  | nil =>
    rw [List.length_nil, List.length_eq_zero_iff] at length lengthOthers
    simp [length, lengthOthers]
  | cons weight weights ih =>
    obtain ⟨part, parts, rfl⟩ := List.exists_cons_of_length_eq_add_one length
    obtain ⟨other, others, rfl⟩ := List.exists_cons_of_length_eq_add_one lengthOthers
    have first := each 0 weight part other rfl rfl rfl
    have rest : (List.zipWith f weights parts).sum + price * (others.sum - parts.sum) ≤
        (List.zipWith f weights others).sum := by
      apply ih (by simpa using length) (by simpa using lengthOthers)
      intro place w a b hw ha hb
      exact each (place + 1) w a b hw ha hb
    simp only [List.zipWith_cons_cons, List.sum_cons]
    have parted : price * (other + others.sum - (part + parts.sum)) =
        price * (other - part) + price * (others.sum - parts.sum) := by ring
    omega

/-- A part is rounded down where the remainder is at most some bound, and up where it is at least
that. Whatever is paid instead, the distance from what is due grows by no less than a price for each
unit more, and the bound alone sets the price. -/
theorem abs_sub_add_price_le {total bound whole rest part : Int}
    (inside : 0 ≤ bound ∧ bound ≤ total) (within : 0 ≤ rest ∧ rest < total)
    (rounded : part = whole ∧ rest ≤ bound ∨ part = whole + 1 ∧ bound ≤ rest) (other : Int) :
    |total * part - (total * whole + rest)| + (total - 2 * bound) * (other - part) ≤
      |total * other - (total * whole + rest)| := by
  have above := le_abs_self (total * other - (total * whole + rest))
  have below := neg_le_abs (total * other - (total * whole + rest))
  rcases rounded with ⟨rfl, down⟩ | ⟨rfl, up⟩
  · have here : |total * part - (total * part + rest)| = rest := by
      rw [show total * part - (total * part + rest) = -rest by ring, abs_neg,
        abs_of_nonneg within.1]
    rw [here]
    rcases Int.lt_or_le part other with more | less
    · have units : bound * 1 ≤ bound * (other - part) :=
        Int.mul_le_mul_of_nonneg_left (by omega) inside.1
      linarith
    · have units : 0 ≤ (total - bound) * (part - other) :=
        Int.mul_nonneg (by omega) (by omega)
      linarith
  · have here : |total * (whole + 1) - (total * whole + rest)| = total - rest := by
      rw [show total * (whole + 1) - (total * whole + rest) = total - rest by ring,
        abs_of_nonneg (by omega)]
    rw [here]
    rcases Int.lt_or_le whole other with more | less
    · have units : 0 ≤ bound * (other - (whole + 1)) :=
        Int.mul_nonneg inside.1 (by omega)
      linarith
    · have units : 0 ≤ (total - bound) * (whole - other) :=
        Int.mul_nonneg (by omega) (by omega)
      linarith

/-- Some bound parts the remainders: those of favoured places are no smaller, and the others no
larger. -/
theorem exists_parting (weighty : 0 < totalWeight weights) (deficit : Int) :
    ∃ bound, (0 ≤ bound ∧ bound ≤ totalWeight weights) ∧
      ∀ (place : Nat) (weight : Int), weights[place]? = some weight → 0 < weight →
        if place ∈ favoured deficit weights then
          bound ≤ remainder deficit (totalWeight weights) weight
        else remainder deficit (totalWeight weights) weight ≤ bound := by
  have within := remainder_bounds weighty deficit
  by_cases empty : favoured deficit weights = []
  · refine ⟨totalWeight weights, ⟨Int.le_of_lt weighty, Int.le_refl _⟩, ?_⟩
    intro place weight _ _
    rw [empty, if_neg List.not_mem_nil]
    exact Int.le_of_lt (within weight).2
  -- The least remainder of a favoured place is such a bound.
  · obtain ⟨last, taken, least⟩ := (favoured deficit weights).toFinset.exists_min_image
      (fun place => remainder deficit (totalWeight weights) (weights.getD place 0))
      (List.toFinset_nonempty_iff _ |>.2 empty)
    rw [List.mem_toFinset] at taken
    obtain ⟨v, hv, _⟩ := weight_pos_of_mem_favoured taken
    rw [List.getD_eq_getElem?_getD, hv] at least
    refine ⟨remainder deficit (totalWeight weights) v,
      ⟨(within v).1, Int.le_of_lt (within v).2⟩, ?_⟩
    intro place weight listed positive
    split
    · rename_i also
      have smallest := least place (List.mem_toFinset.2 also)
      rwa [List.getD_eq_getElem?_getD, listed] at smallest
    · rename_i passed
      by_contra larger
      exact passed (mem_favoured_of_ahead listed hv positive (.inl (Int.not_le.1 larger)) taken)

/-- Each source saves the price of the units between its part and whatever else it would pay. -/
theorem exists_price (owing : 0 < deficit) (weighty : 0 < totalWeight weights) :
    ∃ price, ∀ (place : Nat) (weight part other : Int), weights[place]? = some weight →
      (allocate deficit weights)[place]? = some part →
        distanceFrom deficit (totalWeight weights) weight part + price * (other - part) ≤
          distanceFrom deficit (totalWeight weights) weight other := by
  obtain ⟨bound, inside, parting⟩ := exists_parting weighty deficit
  refine ⟨totalWeight weights - 2 * bound, ?_⟩
  intro place weight part other listed paid
  rw [getElem?_allocate owing weighty listed, Option.some.injEq, floor_due weighty] at paid
  unfold distanceFrom
  split
  · rename_i positive
    have sides := parting place weight listed positive
    rw [quota_of_pos _ _ positive] at paid
    rw [← Int.mul_ediv_add_emod (deficit * weight) (totalWeight weights)]
    refine abs_sub_add_price_le inside (remainder_bounds weighty deficit weight) ?_ other
    split at paid
    · rename_i taken
      rw [if_pos taken] at sides
      exact .inr ⟨paid.symm, sides⟩
    · rename_i passed
      rw [if_neg passed] at sides
      exact .inl ⟨by omega, sides⟩
  -- Without weight nothing is due, and nothing remains.
  · rename_i weightless
    have passed : place ∉ favoured deficit weights := by
      rw [mem_favoured_iff listed]
      exact fun taken => weightless taken.1
    rw [if_neg passed, quota_of_nonpos _ _ (Int.not_lt.1 weightless), Int.add_zero] at paid
    have saved := abs_sub_add_price_le inside ⟨Int.le_refl 0, weighty⟩
      (.inl ⟨paid.symm, inside.1⟩) other
    rwa [Int.mul_zero, Int.add_zero] at saved

theorem isDivision_allocate (owing : 0 < deficit) (weighty : 0 < totalWeight weights) :
    IsDivision deficit weights (allocate deficit weights) where
  length := length_allocate deficit weights
  sum := sum_allocate owing weighty

/-- Of all divisions of the deficit into whole parts, none is nearer to what the sources are due
than the one that they pay. -/
theorem allocate_nearest (owing : 0 < deficit) (weighty : 0 < (positive weights).sum) :
    IsDivision deficit weights (allocate deficit weights) ∧
      ∀ parts, IsDivision deficit weights parts →
        distance deficit weights (allocate deficit weights) ≤ distance deficit weights parts := by
  rw [← totalWeight_eq_sum] at weighty
  have division := isDivision_allocate owing weighty
  refine ⟨division, ?_⟩
  intro parts other
  obtain ⟨price, saved⟩ := exists_price owing weighty
  rw [totalWeight_eq_sum] at saved
  have balanced := sum_le_of_price (distanceFrom deficit (positive weights).sum) price
    division.length other.length fun place weight a b listed paid _ =>
      saved place weight a b listed paid
  rw [division.sum, other.sum, Int.sub_self, Int.mul_zero, Int.add_zero] at balanced
  exact balanced

/-- Of ten units for three equal claims one is left over. It is nearer to what they are due to give
it to one of them than to a source without weight. -/
theorem allocate_nearest_thirds :
    IsDivision 10 [1, -4, 1, 1] [3, 1, 3, 3] ∧ distance 10 [1, -4, 1, 1] [3, 1, 3, 3] = 6 ∧
      distance 10 [1, -4, 1, 1] (allocate 10 [1, -4, 1, 1]) ≤ 6 := by
  have other : IsDivision 10 [1, -4, 1, 1] [3, 1, 3, 3] := ⟨rfl, rfl⟩
  have far : distance 10 [1, -4, 1, 1] [3, 1, 3, 3] = 6 := by decide
  refine ⟨other, far, ?_⟩
  rw [← far]
  exact (allocate_nearest (by decide) (by decide)).2 _ other

end Paymaster.Allocation
