import Mathlib.Data.Rat.Cast.Order
import Mathlib.Tactic.FieldSimp
import Mathlib.Tactic.Ring
import Paymaster.Money
import Paymaster.Proofs.Text.Digits

/-
  The printed form of amounts.
  `rational?` reads a decimal text as the exact number that it stands for, with any count of places.
  An amount is printed as a sign or none, plain digits, a point and two places (`IsAmount`), and
  what is read from it is its cents over a hundred, at both ends of the range too (`text_exact`).
  So the text tells amounts apart.
-/

namespace Paymaster

namespace Decimal

/-- The number that digits, or digits, a point and more digits stand for. -/
def unsigned? (cs : List Char) : Option ℚ :=
  match run cs with
  | ([], _) => none
  | (whole, []) => some (value whole : ℚ)
  | (whole, '.' :: rest) =>
    match run rest with
    | ([], _) => none
    | (places, []) => some (value whole + value places / 10 ^ places.length : ℚ)
    | _ => none
  | _ => none

/-- The exact number that a decimal text stands for, with a minus in front or none. -/
def rational? : List Char → Option ℚ
  | '-' :: cs => (unsigned? cs).map fun q => -q
  | cs => unsigned? cs

theorem unsigned?_of_digits {whole places : List Char} (hw : ∀ c ∈ whole, c.isDigit)
    (hp : ∀ c ∈ places, c.isDigit) (whole_ne : whole ≠ []) (places_ne : places ≠ []) :
    unsigned? (whole ++ '.' :: places) =
      some (value whole + value places / 10 ^ places.length : ℚ) := by
  have front : run (whole ++ '.' :: places) = (whole, '.' :: places) :=
    run_of_digits hw (stops_cons (by decide) places)
  have back : run places = (places, []) := by
    have := run_of_digits hp stops_nil
    rwa [List.append_nil] at this
  obtain ⟨w, ws, rfl⟩ := List.exists_cons_of_ne_nil whole_ne
  obtain ⟨p, ps, rfl⟩ := List.exists_cons_of_ne_nil places_ne
  unfold unsigned?
  rw [front]
  simp only [back]

theorem rational?_minus (cs : List Char) :
    rational? ('-' :: cs) = (unsigned? cs).map fun q => -q := rfl

theorem rational?_of_digit {c : Char} {cs : List Char} (h : c.isDigit) :
    rational? (c :: cs) = unsigned? (c :: cs) := by
  unfold rational?
  split
  · rename_i minus
    cases minus
    cases h
  · rfl

end Decimal

open Decimal

/-- A minus or nothing, plain digits, a point, and two digits. -/
def IsAmount (cs : List Char) : Prop :=
  ∃ sign whole cents, cs = sign ++ whole ++ '.' :: cents ∧ (sign = [] ∨ sign = ['-']) ∧
    IsPlain whole ∧ cents.length = 2 ∧ ∀ c ∈ cents, c.isDigit

namespace Money

theorem isAmount_chars (m : Money) : IsAmount m.chars := by
  refine ⟨if m.isNegative then ['-'] else [], _, _, rfl, ?_, isPlain_digits _,
    length_padded (w := 1) (Nat.mod_lt _ (by decide)), fun c => isDigit_of_mem_padded⟩
  split
  · exact .inr rfl
  · exact .inl rfl

/-- The whole units and the cents of a magnitude make it up. -/
theorem unsigned?_magnitude (n : Nat) :
    unsigned? (digits (n / 100) ++ '.' :: padded 2 (n % 100)) = some (n / 100 : ℚ) := by
  have length : (padded 2 (n % 100)).length = 2 :=
    length_padded (w := 1) (Nat.mod_lt _ (by decide))
  have parts : (100 : ℚ) * (n / 100 : ℕ) + (n % 100 : ℕ) = n := by
    exact_mod_cast Nat.div_add_mod n 100
  rw [unsigned?_of_digits (fun c => isDigit_of_mem_digits) (fun c => isDigit_of_mem_padded)
    (digits_ne_nil _) (padded_ne_nil _ _), length, value_digits, value_padded, ← parts]
  congr 1
  ring

theorem rational?_chars (m : Money) : rational? m.chars = some (m.toInt / 100 : ℚ) := by
  have magnitude := unsigned?_magnitude m.toInt.natAbs
  unfold chars
  by_cases negative : m.toInt < 0
  · have sign : m.isNegative = true := decide_eq_true negative
    have size : (m.toInt.natAbs : ℚ) = -(m.toInt : ℚ) := by
      rw [← Int.cast_natCast, Int.ofNat_natAbs_of_nonpos (Int.le_of_lt negative), Int.cast_neg]
    rw [if_pos sign, List.append_assoc, List.singleton_append, rational?_minus, magnitude, size,
      Option.map_some, neg_div, neg_neg]
  · have sign : m.isNegative = false := decide_eq_false negative
    have size : (m.toInt.natAbs : ℚ) = (m.toInt : ℚ) := by
      rw [← Int.cast_natCast, Int.natAbs_of_nonneg (Int.not_lt.1 negative)]
    obtain ⟨d, ds, first⟩ := List.exists_cons_of_ne_nil (digits_ne_nil (m.toInt.natAbs / 100))
    have digit : d.isDigit := isDigit_of_mem_digits (first ▸ List.mem_cons_self)
    rw [sign, if_neg Bool.false_ne_true, List.nil_append]
    rw [first] at magnitude ⊢
    rw [List.cons_append] at magnitude ⊢
    rw [rational?_of_digit digit, magnitude, size]

theorem minus_mem_chars (m : Money) : '-' ∈ m.chars ↔ m.isNegative := by
  have none_in_digits : '-' ∉ digits (m.toInt.natAbs / 100) := fun among =>
    absurd (isDigit_of_mem_digits among) (by decide)
  have none_in_places : '-' ∉ padded 2 (m.toInt.natAbs % 100) := notMem_padded rfl _ _
  unfold chars
  cases m.isNegative <;> simp [none_in_digits, none_in_places]

/-- The printed form of every amount is plain and exact: read as a decimal it is the cents over a
hundred, a minus stands in it just if the amount is negative, and no other amount has it. -/
theorem text_exact (m : Money) :
    IsAmount m.text.toList ∧ rational? m.text.toList = some (m.toInt / 100 : ℚ) ∧
      ('-' ∈ m.text.toList ↔ m.toInt < 0) ∧ ∀ other : Money, other.text = m.text → other = m := by
  have list (m : Money) : m.text.toList = m.chars := String.toList_ofList
  rw [list]
  refine ⟨isAmount_chars m, rational?_chars m, ?_, fun other same => ?_⟩
  · rw [minus_mem_chars, isNegative, decide_eq_true_iff]
  · have values : (other.toInt / 100 : ℚ) = m.toInt / 100 := by
      have := rational?_chars other
      rw [← list, same, list, rational?_chars] at this
      exact (Option.some.inj this).symm
    refine toInt_injective ?_
    have whole : (other.toInt : ℚ) = m.toInt := by
      field_simp at values
      exact values
    exact_mod_cast whole

example : (⟨Int64.minValue⟩ : Money).text = "-92233720368547758.08" := by decide

end Money

end Paymaster
