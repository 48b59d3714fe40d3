import Paymaster.Text.Decimal

/-
  Numbers in a fixed number of places, and the order of their texts.
  A number is read back from its digits, however many zeros they are filled up with
  (`value_padded`).
  Texts of one length are ordered by their first difference, whatever follows them
  (`append_lt_append`). So numbers that are filled up with zeros to the same places are ordered as
  texts the way they are ordered as numbers (`padded_append_lt`). Fractions of different places are
  too, as long as what follows them goes before every digit (`places_plus_lt`).
-/

namespace Paymaster.Decimal

theorem isDigit_of_mem_digits {n : Nat} {c : Char} (h : c ∈ digits n) : c.isDigit :=
  Nat.isDigit_of_mem_toDigits (by decide) (by decide) h

theorem isDigit_of_mem_padded {w n : Nat} {c : Char} (h : c ∈ padded w n) : c.isDigit := by
  rcases List.mem_append.1 h with zero | digit
  · rw [List.eq_of_mem_replicate zero]
    rfl
  · exact isDigit_of_mem_digits digit

theorem value_digits (n : Nat) : value (digits n) = n :=
  Nat.ofDigitChars_toDigits (by decide) (by decide)

theorem value_padded (width n : Nat) : value (padded width n) = n := by
  unfold padded
  induction width - (digits n).length with
  | zero => exact value_digits n
  | succ zeros ih =>
    rw [List.replicate_succ, List.cons_append]
    exact ih

theorem padded_injective {w n m : Nat} (same : padded w n = padded w m) : n = m := by
  rw [← value_padded w n, same, value_padded]

theorem notMem_padded {c : Char} (other : c.isDigit = false) (w n : Nat) : c ∉ padded w n := by
  intro among
  rw [isDigit_of_mem_padded among] at other
  cases other

theorem append_lt_append {a b : List Char} (x y : List Char) (len : a.length = b.length)
    (h : a < b) : a ++ x < b ++ y := by
  induction a generalizing b with
  | nil =>
    have : b = [] := List.eq_nil_of_length_eq_zero len.symm
    rw [this] at h
    cases h
  | cons c cs ih =>
    cases b with
    | nil => cases h
    | cons d ds =>
      rw [List.cons_append, List.cons_append, List.cons_lt_cons_iff]
      rcases List.cons_lt_cons_iff.1 h with before | ⟨same, rest⟩
      · exact .inl before
      · exact .inr ⟨same, ih (by simpa using len) rest⟩

theorem unit_succ (w : Nat) : unit (w + 1) = unit w * 10 := rfl

theorem unit_pos (w : Nat) : 0 < unit w := by
  induction w with
  | zero => decide
  | succ w ih =>
    rw [unit_succ]
    omega

theorem unit_add (v w : Nat) : unit (v + w) = unit v * unit w := by
  induction w with
  | zero => exact (Nat.mul_one (unit v)).symm
  | succ w ih => rw [← Nat.add_assoc, unit_succ, unit_succ, ih, Nat.mul_assoc]

/-- The last `w` digits of `n`. -/
def places : Nat → Nat → List Char
  | 0, _ => []
  | w + 1, n => places w (n / 10) ++ [Nat.digitChar (n % 10)]

theorem length_places (w n : Nat) : (places w n).length = w := by
  induction w generalizing n with
  | zero => rfl
  | succ w ih => rw [places, List.length_append, ih, List.length_singleton]

theorem places_add (v w n : Nat) : places (v + w) n = places v (n / unit w) ++ places w n := by
  induction w generalizing n with
  | zero =>
    have whole : n / unit 0 = n := Nat.div_one n
    rw [whole, Nat.add_zero, places, List.append_nil]
  | succ w ih =>
    have tail : n / unit (w + 1) = n / 10 / unit w := by
      rw [unit_succ, Nat.mul_comm, Nat.div_div_eq_div_mul]
    rw [← Nat.add_assoc, places, places, ih, tail, List.append_assoc]

theorem digitChar_lt : ∀ a < 10, ∀ b < 10, a < b → Nat.digitChar a < Nat.digitChar b := by decide

theorem places_lt_places {w n m : Nat} (h : n < m) (bound : m < unit w) :
    places w n < places w m := by
  induction w generalizing n m with
  | zero =>
    have bound : m < 1 := bound
    omega
  | succ w ih =>
    rw [places, places]
    have quotient : m / 10 < unit w := by
      rw [unit_succ] at bound
      omega
    rcases Nat.lt_or_ge (n / 10) (m / 10) with before | after
    · have len : (places w (n / 10)).length = (places w (m / 10)).length := by
        rw [length_places, length_places]
      exact append_lt_append _ _ len (ih before quotient)
    · have same : n / 10 = m / 10 := by omega
      have last : Nat.digitChar (n % 10) < Nat.digitChar (m % 10) :=
        digitChar_lt _ (by omega) _ (by omega) (by omega)
      rw [same]
      exact List.append_left_lt (List.cons_lt_cons_iff.2 (.inl last))

theorem places_append_lt {w n m : Nat} (h : n < m) (bound : m < unit w) (x y : List Char) :
    places w n ++ x < places w m ++ y := by
  refine append_lt_append x y ?_ (places_lt_places h bound)
  rw [length_places, length_places]

theorem plus_lt_digitChar : ∀ a < 10, '+' < Nat.digitChar a := by decide

theorem plus_lt_places (w n : Nat) (x y : List Char) : '+' :: x < places (w + 1) n ++ y := by
  rw [Nat.add_comm, places_add, List.append_assoc]
  exact List.cons_lt_cons_iff.2 (.inl (plus_lt_digitChar _ (Nat.mod_lt _ (by decide))))

/-- A number of fewer places, closed by a plus, goes before any that is more with further places. -/
theorem places_plus_lt_longer {v d a b : Nat} (h : a * unit d < b) (bound : b < unit (v + d))
    (x y : List Char) : places v a ++ '+' :: x < places (v + d) b ++ y := by
  rw [places_add, List.append_assoc]
  rcases Nat.lt_or_ge a (b / unit d) with before | after
  · have quotient : b / unit d < unit v := by
      rw [Nat.div_lt_iff_lt_mul (unit_pos d), ← unit_add]
      exact bound
    exact places_append_lt before quotient _ _
  · have within : a ≤ b / unit d := (Nat.le_div_iff_mul_le (unit_pos d)).2 (Nat.le_of_lt h)
    have same : b / unit d = a := Nat.le_antisymm after within
    rw [same]
    apply List.append_left_lt
    cases d with
    | zero =>
      have same : b / 1 = a := same
      have values : a * 1 < b := h
      omega
    | succ d => exact plus_lt_places d b _ _

theorem unit_sub {w d k : Nat} (h : w + d ≤ k) : unit (k - w) = unit d * unit (k - (w + d)) := by
  rw [← unit_add]
  congr 1
  omega

/-- Fractions of `v` and of `w` places, closed by a plus, are ordered as their values, here in units
of `k` places. -/
theorem places_plus_lt {v w k a b : Nat} (hv : v ≤ k) (hw : w ≤ k)
    (h : a * unit (k - v) < b * unit (k - w)) (bound : b < unit w) (x : List Char) :
    places v a ++ '+' :: x < places w b ++ '+' :: x := by
  rcases Nat.le_total v w with shorter | longer
  · obtain ⟨d, rfl⟩ := Nat.exists_eq_add_of_le shorter
    rw [unit_sub hw, ← Nat.mul_assoc] at h
    exact places_plus_lt_longer (Nat.lt_of_mul_lt_mul_right h) bound _ _
  · obtain ⟨d, rfl⟩ := Nat.exists_eq_add_of_le longer
    rw [unit_sub hv, ← Nat.mul_assoc] at h
    have values : a < b * unit d := Nat.lt_of_mul_lt_mul_right h
    have quotient : a / unit d < b := (Nat.div_lt_iff_lt_mul (unit_pos d)).2 values
    rw [places_add, List.append_assoc]
    exact places_append_lt quotient bound _ _

/-- A number that fits is written in just the places that it is filled up to. -/
theorem padded_eq_places {w n : Nat} (bound : n < unit (w + 1)) :
    padded (w + 1) n = places (w + 1) n := by
  induction w generalizing n with
  | zero =>
    have small : n < 10 := bound
    rw [padded, digits, Nat.toDigits_of_lt_base small, places, places, Nat.mod_eq_of_lt small]
    rfl
  | succ w ih =>
    have quotient : n / 10 < unit (w + 1) := by
      rw [unit_succ] at bound
      omega
    rw [places, ← ih quotient, padded, padded, digits, digits, Nat.toDigits_eq_if (by omega)]
    split
    · rename_i small
      have none_left : n / 10 = 0 := by omega
      rw [none_left, Nat.toDigits_zero, Nat.mod_eq_of_lt small]
      simp [List.replicate_succ']
    · have width (l : Nat) : w + 1 + 1 - (l + 1) = w + 1 - l := by omega
      rw [List.length_append, List.length_singleton, width, List.append_assoc]

/-- Numbers in the same places go before each other as texts do, whatever follows them. -/
theorem padded_append_lt {w n m : Nat} (h : n < m) (bound : m < unit (w + 1)) (x y : List Char) :
    padded (w + 1) n ++ x < padded (w + 1) m ++ y := by
  rw [padded_eq_places bound, padded_eq_places (Nat.lt_trans h bound)]
  exact places_append_lt h bound x y

end Paymaster.Decimal
