/-
  Sets of characters as closed ranges of code points, in rising order.
-/

namespace Paymaster.Text

abbrev Ranges := List (Nat × Nat)

namespace Ranges

def contains (rs : Ranges) (c : Char) : Bool := rs.any fun r => r.1 ≤ c.toNat && c.toNat ≤ r.2

/-- Each range starts beyond the one before it, with a gap between them. -/
def areApart : Ranges → Bool
  | [] => true
  | [r] => r.1 ≤ r.2
  | r :: s :: rs => r.1 ≤ r.2 && r.2 + 1 < s.1 && areApart (s :: rs)

end Ranges

end Paymaster.Text
