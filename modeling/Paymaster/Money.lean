import Paymaster.Text.Decimal

/-
  Amounts of money: whole cents in a signed 64-bit word.
  Sums and negations that leave the word are refused, never wrapped (`Overflow`); the absolute
  value of the least amount is the greatest one. `Money.text` is the printed form, a point and
  two places for the cents.
-/

namespace Paymaster

/-- The operation whose result left the 64-bit range. -/
inductive Overflow
  | add
  | negate
deriving DecidableEq, Repr

def Overflow.message : Overflow → String
  | .add => "attempt to add with overflow"
  | .negate => "attempt to negate with overflow"

structure Money where
  cents : Int64
deriving DecidableEq, Repr, Inhabited

namespace Money

def toInt (m : Money) : Int := m.cents.toInt

def zero : Money := ⟨0⟩

/-- The greatest amount. -/
def most : Money := ⟨Int64.maxValue⟩

/-- The amount of `n` cents, when a 64-bit word holds it. -/
def ofInt? (n : Int) : Option Money :=
  if Int64.minValue.toInt ≤ n ∧ n ≤ Int64.maxValue.toInt then some ⟨Int64.ofInt n⟩ else none

theorem toInt_of_ofInt? {n : Int} {m : Money} (h : ofInt? n = some m) : m.toInt = n := by
  have least : Int64.minValue.toInt = -9223372036854775808 := rfl
  have greatest : Int64.maxValue.toInt = 9223372036854775807 := rfl
  unfold ofInt? at h
  split at h
  · cases h
    exact Int64.toInt_ofInt_of_le (by omega) (by omega)
  · cases h

theorem ofInt?_toInt (m : Money) : ofInt? m.toInt = some m := by
  have least : Int64.minValue.toInt = -9223372036854775808 := rfl
  have greatest : Int64.maxValue.toInt = 9223372036854775807 := rfl
  have lower := m.cents.le_toInt
  have upper := m.cents.toInt_lt
  have range : Int64.minValue.toInt ≤ m.cents.toInt ∧ m.cents.toInt ≤ Int64.maxValue.toInt := by
    omega
  simp only [ofInt?, toInt, if_pos range, Int64.ofInt_toInt]

theorem toInt_injective {a b : Money} (h : a.toInt = b.toInt) : a = b := by
  have := ofInt?_toInt a
  rw [h, ofInt?_toInt b] at this
  exact (Option.some.inj this).symm

def isPositive (m : Money) : Bool := 0 < m.toInt

def isNegative (m : Money) : Bool := m.toInt < 0

/-- The magnitude; that of the least amount, which no word holds, is the greatest amount. -/
def abs (m : Money) : Money := (ofInt? m.toInt.natAbs).getD most

def add (a b : Money) : Except Overflow Money :=
  match ofInt? (a.toInt + b.toInt) with
  | some m => .ok m
  | none => .error .add

def negate (m : Money) : Except Overflow Money :=
  match ofInt? (-m.toInt) with
  | some m => .ok m
  | none => .error .negate

/-- The sum from the left, refused as soon as a partial sum leaves the range. -/
def sum (ms : List Money) : Except Overflow Money := ms.foldlM add zero

/-- An optional sign, the whole units, a point, and the two places of the cents. -/
def chars (m : Money) : List Char :=
  (if m.isNegative then ['-'] else []) ++ Decimal.digits (m.toInt.natAbs / 100) ++
    '.' :: Decimal.padded 2 (m.toInt.natAbs % 100)

def text (m : Money) : String := String.ofList m.chars

instance : Ord Money := ⟨fun a b => compare a.toInt b.toInt⟩

end Money

end Paymaster
