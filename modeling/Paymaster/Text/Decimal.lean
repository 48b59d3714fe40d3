/-
  Decimal text of whole numbers.
  `padded w n` writes `n` with at least `w` digits; `value` reads digits back. `signed` is the
  text of an integer, and `span` splits a run of digits off the front of a text.
-/

namespace Paymaster.Decimal

/-- The digits of `n`, with no superfluous leading zero. -/
def digits (n : Nat) : List Char := Nat.toDigits 10 n

/-- The digits of `n`, filled up with leading zeros to at least `width` places. -/
def padded (width n : Nat) : List Char :=
  List.replicate (width - (digits n).length) '0' ++ digits n

def signed (n : Int) : List Char :=
  if n < 0 then '-' :: digits n.natAbs else digits n.natAbs

/-- The number that a digit stands for; only used on digits. -/
def digitValue (c : Char) : Nat := c.toNat - '0'.toNat

/-- The number that a run of digits stands for. -/
def value (ds : List Char) : Nat := ds.foldl (fun n c => 10 * n + digitValue c) 0

/-- The number that a one and `places` zeros stand for. -/
def unit (places : Nat) : Nat := Nat.pow 10 places

/-- The longest run of at most `limit` digits at the front, and what follows it. -/
def span : Nat → List Char → List Char × List Char
  | 0, cs => ([], cs)
  | _ + 1, [] => ([], [])
  | limit + 1, c :: cs =>
    if c.isDigit then
      let (ds, rest) := span limit cs
      (c :: ds, rest)
    else ([], c :: cs)

/-- The run of digits at the front, and what follows it. -/
def run (cs : List Char) : List Char × List Char := span cs.length cs

end Paymaster.Decimal
