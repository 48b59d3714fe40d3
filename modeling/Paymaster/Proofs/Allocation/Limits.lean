import Paymaster.Proofs.Allocation.Words

/-
  A split in machine words stays within their limits, step by step.
  Three loops make up the split: one adds up the weights, one works out the whole parts, and one
  hands out the units left over. `WithinLimits` says what they rely on wherever they are in their
  lists (`Throughout`): results that fit their words, a divisor that is not zero, places that the
  list has. Between the loops it wants the units left over to be a count, and fewer than there are
  claims. No part and no count then needs its stand-in.

  Where the strict computation goes on, it has made sure of all this, and the computation with
  stand-ins goes on in the same way (`Tally.admits_of_add`, `throughout_of_foldlM`). The strict one
  always gives a result (`allocateWords_eq`), so nothing is ever put in the place of a number
  (`split_within_limits`).
-/

namespace Paymaster.Allocation

/-! ## Loops -/

section
variable {σ α : Type} {strict step : σ → α → Option σ} {safe : σ → α → Prop} {s t : σ} {l : List α}

/-- A loop reaches each element of a list, in a state in which it is safe to go on with it. -/
def Throughout (step : σ → α → Option σ) (safe : σ → α → Prop) (start : σ) (l : List α) : Prop :=
  ∀ done next todo, l = done ++ next :: todo → ∃ s, done.foldlM step start = some s ∧ safe s next

theorem foldlM_of_strict (each : ∀ s a t, strict s a = some t → step s a = some t)
    (ran : l.foldlM strict s = some t) : l.foldlM step s = some t := by
  induction l generalizing s with
  | nil => exact ran
  | cons a l ih =>
    rw [List.foldlM_cons] at ran ⊢
    obtain ⟨u, first, rest⟩ := Option.bind_eq_some_iff.1 ran
    rw [each s a u first]
    exact ih rest

/-- What a strict loop makes sure of at each step holds all along the loop that does the same. -/
theorem throughout_of_foldlM
    (each : ∀ s a t, strict s a = some t → safe s a ∧ step s a = some t)
    (ran : l.foldlM strict s = some t) : Throughout step safe s l := by
  intro done next todo split
  rw [split, List.foldlM_append] at ran
  obtain ⟨u, before, ran⟩ := Option.bind_eq_some_iff.1 ran
  rw [List.foldlM_cons] at ran
  obtain ⟨v, here, -⟩ := Option.bind_eq_some_iff.1 ran
  exact ⟨u, foldlM_of_strict (fun s a t went => (each s a t went).2) before, (each u next v here).1⟩

end

/-! ## Single operations -/

/-- A signed word of so many bits holds the number. -/
def Fits (bits : Nat) (n : Int) : Prop := -2 ^ (bits - 1) ≤ n ∧ n < 2 ^ (bits - 1)

section
variable {bits : Nat} {n m : Int}

theorem word_eq_some_iff : word bits n = some m ↔ Fits bits n ∧ n = m := by
  rw [word, Option.ite_none_right_eq_some, Option.some.injEq]
  rfl

theorem convert_strict_eq_some_iff {fits : Bool} {standIn : Int} :
    convert true fits n standIn = some m ↔ fits = true ∧ n = m := by
  simp [convert]

theorem narrow_strict_eq_some_iff : narrow true n = some m ↔ Fits 64 n ∧ n = m := by
  rw [narrow, convert_strict_eq_some_iff, decide_eq_true_iff]
  rfl

theorem narrow_of_fits (strict : Bool) (fits : Fits 64 n) : narrow strict n = some n := by
  have within : -2 ^ 63 ≤ n ∧ n < 2 ^ 63 := fits
  rw [narrow, convert, if_pos (decide_eq_true within)]

theorem count_strict_eq_some_iff {k : Nat} :
    count true n = some k ↔ (0 ≤ n ∧ n < 2 ^ 64) ∧ n.toNat = k := by
  simp [count, convert_strict_eq_some_iff]

theorem divide_eq_some_iff {total : Int} {quotient : Int × Int} : divide n total = some quotient ↔
    total ≠ 0 ∧ Fits 128 (n.tdiv total) ∧ (n.tdiv total, n.tmod total) = quotient := by
  simp [divide, guard, Option.bind_eq_some_iff, word_eq_some_iff]

theorem put_eq_some_iff {parts more : List Int} {place : Nat} :
    put parts place n = some more ↔ place < parts.length ∧ parts.set place n = more := by
  simp [put]

end

/-! ## Single steps -/

/-- A tally where nothing has been worked out. -/
def Tally.start (weights : List Int) : Tally := ⟨weights.map fun _ => 0, 0, []⟩

/-- What it takes to work out the whole part of one claim after those of a tally. -/
structure Tally.Admits (deficit total : Int) (t : Tally) (claim : Int × Nat) : Prop where
  product : Fits 128 (deficit * claim.1)
  divisor : total ≠ 0
  quotient : Fits 128 ((deficit * claim.1).tdiv total)
  /-- The part is one that needs no stand-in. -/
  part : Fits 64 ((deficit * claim.1).tdiv total)
  place : claim.2 < t.parts.length
  sum : Fits 128 (t.allocated + (deficit * claim.1).tdiv total)

/-- The list has a part at the place, and it can take one unit more. -/
def CanBump (parts : List Int) (place : Nat) : Prop :=
  ∃ part, parts[place]? = some part ∧ Fits 64 (part + 1)

section
variable {deficit total : Int}

theorem Tally.admits_of_add {t u : Tally} {claim : Int × Nat}
    (added : Tally.add true deficit total t claim = some u) :
    (0 < claim.1 → t.Admits deficit total claim) ∧
      Tally.add false deficit total t claim = some u := by
  unfold Tally.add at added ⊢
  split
  · rename_i weightless
    rw [if_pos weightless] at added
    exact ⟨fun positive => absurd positive (Int.not_lt.2 weightless), added⟩
  · rename_i positive
    rw [if_neg positive] at added
    simp only [Option.bind_eq_bind, Option.bind_eq_some_iff, word_eq_some_iff, divide_eq_some_iff,
      narrow_strict_eq_some_iff, put_eq_some_iff] at added
    obtain ⟨_, ⟨product, rfl⟩, _, ⟨divisor, quotient, rfl⟩, _, ⟨part, rfl⟩, _, ⟨place, rfl⟩, _,
      ⟨sum, rfl⟩, done⟩ := added
    refine ⟨fun _ => ⟨product, divisor, quotient, part, place, sum⟩, ?_⟩
    -- The part fits, so the step that would put a stand-in for it takes it as it is.
    have same := narrow_of_fits false part
    simp only [Option.bind_eq_bind, Option.bind_some, word_eq_some_iff.2 ⟨product, rfl⟩,
      divide_eq_some_iff.2 ⟨divisor, quotient, rfl⟩, same, put_eq_some_iff.2 ⟨place, rfl⟩,
      word_eq_some_iff.2 ⟨sum, rfl⟩, done]

theorem canBump_of_bump {parts more : List Int} {place : Nat}
    (bumped : bump parts place = some more) : CanBump parts place := by
  obtain ⟨part, here, bumped⟩ := Option.bind_eq_some_iff.1 bumped
  obtain ⟨next, fits, -⟩ := Option.bind_eq_some_iff.1 bumped
  exact ⟨part, here, (word_eq_some_iff.1 fits).1⟩

end

/-! ## The whole -/

/-- The loop over the sources gets to a tally, and what it leaves over can be handed out. -/
structure Completes (deficit total : Int) (weights : List Int) (tally : Tally) : Prop where
  reached : weights.zipIdx.foldlM (Tally.add false deficit total) (.start weights) = some tally
  parts : Throughout (Tally.add false deficit total)
    (fun t claim => 0 < claim.1 → t.Admits deficit total claim) (.start weights) weights.zipIdx
  difference : Fits 128 (deficit - tally.allocated)
  /-- The units left over are a count that needs no stand-in. -/
  count : 0 ≤ deficit - tally.allocated ∧ deficit - tally.allocated < 2 ^ 64
  /-- There are fewer of them than remainders, or none at all. -/
  fewer : deficit - tally.allocated < max tally.remainders.length 1
  units : Throughout (fun parts claim => bump parts claim.1)
    (fun parts claim => CanBump parts claim.1) tally.parts
    ((tally.remainders.mergeSort fun a b => b.2 ≤ a.2).take (deficit - tally.allocated).toNat)

/-- The weights add up to a total within their word, and with a positive one the split is
completed. -/
structure WithinLimits (deficit : Int) (weights : List Int) : Prop where
  sums : Throughout (fun sum weight => word 128 (sum + weight))
    (fun sum weight => Fits 128 (sum + weight)) 0 (positive weights)
  total : ∃ total, addWeights weights = some total ∧
    (0 < total → ∃ tally, Completes deficit total weights tally)

theorem withinLimits_of_strict {deficit : Int64} {weights : List Int32} {parts : List Int}
    (owing : 0 < deficit.toInt) (ran : allocateWords true deficit weights = some parts) :
    WithinLimits deficit.toInt (weights.map (·.toInt)) := by
  unfold allocateWords at ran
  rw [if_neg (Int.not_le.2 owing)] at ran
  obtain ⟨total, added, ran⟩ := Option.bind_eq_some_iff.1 ran
  refine ⟨throughout_of_foldlM (fun _ _ _ fits => ⟨(word_eq_some_iff.1 fits).1, fits⟩) added,
    total, added, fun weighty => ?_⟩
  rw [if_neg (Int.not_le.2 weighty)] at ran
  obtain ⟨tally, worked, ran⟩ := Option.bind_eq_some_iff.1 ran
  obtain ⟨_, difference, ran⟩ := Option.bind_eq_some_iff.1 ran
  obtain ⟨fits, rfl⟩ := word_eq_some_iff.1 difference
  obtain ⟨_, counted, ran⟩ := Option.bind_eq_some_iff.1 ran
  obtain ⟨bounds, rfl⟩ := count_strict_eq_some_iff.1 counted
  obtain ⟨_, guarded, bumped⟩ := Option.bind_eq_some_iff.1 ran
  have fewer := (Option.guard_eq_some' _).1 guarded
  refine ⟨tally, {
    reached := foldlM_of_strict (fun _ _ _ added => (Tally.admits_of_add added).2) worked
    parts := throughout_of_foldlM (fun _ _ _ => Tally.admits_of_add) worked
    difference := fits
    count := bounds
    fewer := ?_
    units := throughout_of_foldlM (fun _ _ _ bumped => ⟨canBump_of_bump bumped, bumped⟩) bumped }⟩
  rw [List.length_mergeSort] at fewer
  omega

/-- Splitting up any deficit among any sources, no sum, product or difference leaves its word, no
divisor is zero, no place lies outside the list, fewer units are left over than there are claims,
and no part and no count is replaced. So whether the computation stops for these or puts a stand-in,
it comes to the exact split. -/
theorem split_within_limits (deficit : Int64) {weights : List Int32}
    (few : weights.length < 2 ^ 63) :
    (0 < deficit.toInt → WithinLimits deficit.toInt (weights.map (·.toInt))) ∧
      ∀ strict, allocateWords strict deficit weights =
        some (allocate deficit.toInt (weights.map (·.toInt))) := by
  have words : weights.length ≤ 2 ^ 64 := by omega
  refine ⟨fun owing => ?_, fun strict => allocateWords_eq strict deficit words⟩
  exact withinLimits_of_strict owing (allocateWords_eq true deficit words)

/-- The greatest deficit is split evenly between two of the greatest weights. -/
theorem split_within_limits_greatest :
    WithinLimits 9223372036854775807 [2147483647, -5, 2147483647] ∧
      allocateWords true Int64.maxValue [2147483647, -5, 2147483647] =
        some [4611686018427387904, 0, 4611686018427387903] := by
  have few : ([2147483647, -5, 2147483647] : List Int32).length < 2 ^ 63 := by decide
  have within := split_within_limits Int64.maxValue few
  have parts : allocate 9223372036854775807 [2147483647, -5, 2147483647] =
    [4611686018427387904, 0, 4611686018427387903] := by cbv
  exact ⟨within.1 (by decide), (within.2 true).trans (congrArg some parts)⟩

end Paymaster.Allocation
