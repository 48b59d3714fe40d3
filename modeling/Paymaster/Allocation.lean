/-
  Splitting a whole amount in proportion to weights, by largest remainders.
  With `W` the sum of the positive weights, a source of weight `w > 0` is due `deficit * w / W`.
  Everyone gets the whole part; the units left over go one each to the largest remainders, equal
  remainders in the order of the list. Sources of no positive weight get nothing, and so does
  everyone when nothing is to be split or nobody has weight. All numbers are exact integers.
-/

namespace Paymaster.Allocation

/-- The sum of the positive weights. -/
def totalWeight (weights : List Int) : Int := (weights.map (max · 0)).foldr (· + ·) 0

/-- The whole part of what a weight is due. -/
def quota (deficit total weight : Int) : Int := deficit * max weight 0 / total

/-- What is left of the due share, as a numerator over the total weight. -/
def remainder (deficit total weight : Int) : Int := deficit * weight % total

/-- The units that the whole parts leave over. -/
def leftover (deficit : Int) (weights : List Int) : Int :=
  deficit - (weights.map (quota deficit (totalWeight weights))).foldr (· + ·) 0

/-- The places of the positive weights, the largest remainders first. -/
def ranking (deficit : Int) (weights : List Int) : List Nat :=
  let claims := weights.zipIdx.filter (0 < ·.1)
  let total := totalWeight weights
  (claims.mergeSort fun a b => remainder deficit total b.1 ≤ remainder deficit total a.1).map (·.2)

/-- The places that get one of the units left over. -/
def favoured (deficit : Int) (weights : List Int) : List Nat :=
  (ranking deficit weights).take (leftover deficit weights).toNat

/-- What each source pays of `deficit`, in the order of `weights`. -/
def allocate (deficit : Int) (weights : List Int) : List Int :=
  if deficit ≤ 0 ∨ totalWeight weights ≤ 0 then weights.map fun _ => 0
  else
    let favoured := favoured deficit weights
    let total := totalWeight weights
    weights.zipIdx.map fun (weight, place) =>
      quota deficit total weight + if place ∈ favoured then 1 else 0

theorem length_allocate (deficit : Int) (weights : List Int) :
    (allocate deficit weights).length = weights.length := by
  unfold allocate
  split <;> simp

end Paymaster.Allocation
