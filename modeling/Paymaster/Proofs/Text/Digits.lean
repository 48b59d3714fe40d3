import Paymaster.Proofs.Text.Places

/-
  Runs of digits, and what follows them.
  A reader takes the longest run of digits in front, so a number is read back whole from a text
  in which no digit follows it, or when the reader takes no more digits than it has
  (`span_of_digits`). The digits of a number begin with a zero only if there is no other
  (`IsPlain`), so that a reader who takes a zero in front for the whole number goes right.
-/

namespace Paymaster.Decimal

/-- The text does not go on with a digit. -/
def Stops (rest : List Char) : Prop := ∀ c ∈ rest.head?, ¬c.isDigit

theorem stops_nil : Stops [] := nofun

theorem stops_cons {c : Char} (other : ¬c.isDigit) (rest : List Char) : Stops (c :: rest) := by
  intro d head
  cases head
  exact other

theorem span_of_digits {limit : Nat} {ds rest : List Char} (digits : ∀ c ∈ ds, c.isDigit)
    (fits : ds.length ≤ limit) (ends : ds.length = limit ∨ Stops rest) :
    span limit (ds ++ rest) = (ds, rest) := by
  induction limit generalizing ds with
  | zero =>
    obtain rfl : ds = [] := List.eq_nil_of_length_eq_zero (Nat.le_zero.1 fits)
    rfl
  | succ limit ih =>
    cases ds with
    | nil =>
      have stops : Stops rest := ends.resolve_left (Nat.succ_ne_zero limit).symm
      cases rest with
      | nil => rfl
      | cons c rest => exact if_neg (stops c rfl)
    | cons d ds =>
      have others : ∀ c ∈ ds, c.isDigit := fun c among => digits c (List.mem_cons_of_mem d among)
      have shorter : ds.length ≤ limit := Nat.le_of_succ_le_succ fits
      rw [List.cons_append, span, if_pos (digits d List.mem_cons_self),
        ih others shorter (ends.imp_left Nat.succ.inj)]

theorem run_of_digits {ds rest : List Char} (digits : ∀ c ∈ ds, c.isDigit) (stops : Stops rest) :
    run (ds ++ rest) = (ds, rest) :=
  span_of_digits digits (by simp) (.inr stops)

/-! ## The digits of a number -/

/-- Digits without a superfluous zero in front. -/
structure IsPlain (ds : List Char) : Prop where
  digits : ∀ c ∈ ds, c.isDigit
  ne_nil : ds ≠ []
  zero : ds.head? = some '0' → ds = ['0']

theorem digits_ne_nil (n : Nat) : digits n ≠ [] := Nat.toDigits_ne_nil

/-- A digit is the digit of a number below ten. -/
theorem exists_digitChar {c : Char} (h : c.isDigit) : ∃ d < 10, c = Nat.digitChar d := by
  simp only [Char.isDigit, Bool.and_eq_true, decide_eq_true_eq, UInt32.le_iff_toNat_le] at h
  have range : 48 ≤ c.toNat ∧ c.toNat ≤ 57 := h
  refine ⟨c.toNat - 48, by omega, Char.toNat_inj.1 ?_⟩
  rw [Nat.toNat_digitChar_of_lt_ten (by omega)]
  omega

/-- The last digit of a number of several digits stands behind the others. -/
theorem digits_of_le {n : Nat} (h : 10 ≤ n) :
    digits n = digits (n / 10) ++ [Nat.digitChar (n % 10)] := by
  have several : ¬n < 10 := Nat.not_lt.2 h
  unfold digits
  rw [Nat.toDigits_eq_if (by decide), if_neg several]

theorem isPlain_digits (n : Nat) : IsPlain (digits n) := by
  refine ⟨fun c => isDigit_of_mem_digits, digits_ne_nil n, ?_⟩
  induction n using Nat.strongRecOn with
  | _ n ih =>
    intro zero
    rcases Nat.lt_or_ge n 10 with small | several
    · have single : digits n = [Nat.digitChar n] := Nat.toDigits_of_lt_base small
      rw [single] at zero ⊢
      exact congrArg (fun c => [c]) (Option.some.inj zero)
    · -- The first digit is that of the tenth part, which is not zero.
      have first : (digits n).head? = (digits (n / 10)).head? := by
        obtain ⟨d, ds, others⟩ := List.exists_cons_of_ne_nil (digits_ne_nil (n / 10))
        rw [digits_of_le several, others]
        rfl
      have tenth := ih (n / 10) (by omega) (first ▸ zero)
      have value : value (digits (n / 10)) = 0 := by
        rw [tenth]
        rfl
      rw [value_digits] at value
      omega

theorem padded_ne_nil (w n : Nat) : padded w n ≠ [] :=
  List.append_ne_nil_of_right_ne_nil _ (digits_ne_nil n)

/-- A number that fits has just the places that it is filled up to. -/
theorem length_padded {w n : Nat} (bound : n < unit (w + 1)) :
    (padded (w + 1) n).length = w + 1 := by
  rw [padded_eq_places bound, length_places]

end Paymaster.Decimal
