/-
  Numerals to bases up to sixteen.
  The digits from ten on are letters, small or capital. `value?` reads a run of digits to a base and
  gives nothing if one of them is none of the base.
-/

namespace Paymaster.Numeral

/-- The value of a digit. -/
def digit? (c : Char) : Option Nat :=
  if '0' ≤ c ∧ c ≤ '9' then some (c.toNat - '0'.toNat)
  else if 'a' ≤ c ∧ c ≤ 'f' then some (c.toNat - 'a'.toNat + 10)
  else if 'A' ≤ c ∧ c ≤ 'F' then some (c.toNat - 'A'.toNat + 10)
  else none

def isDigit (base : Nat) (c : Char) : Bool := (digit? c).any (· < base)

/-- One more digit at the end of a numeral that stands for `n`. -/
def push? (base n : Nat) (c : Char) : Option Nat := do
  let d ← digit? c
  if d < base then some (base * n + d) else none

/-- The number that digits stand for; that of no digits is zero. -/
def value? (base : Nat) (ds : List Char) : Option Nat := ds.foldlM (push? base) 0

end Paymaster.Numeral
