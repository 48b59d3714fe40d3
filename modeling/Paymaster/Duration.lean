import Paymaster.Text.Decimal

/-
  Spans of time in whole nanoseconds, and their printed form: the largest of the units s, ms, µs
  and ns that is not above the span, with as many decimal places as are needed to be exact.
-/

namespace Paymaster

/-- A span of time, in nanoseconds. -/
abbrev Duration := Nat

namespace Duration

def ofMillis (ms : Nat) : Duration := ms * 1000000

def ofSeconds (s : Nat) (nanos : Nat) : Duration := s * 1000000000 + nanos

def toMillis (d : Duration) : Nat := d / 1000000

/-- `n` in units of a one and `places` zeros: the places that are needed to be exact follow a
point. -/
def decimalChars (places n : Nat) : List Char :=
  let part := n % Decimal.unit places
  let fraction := ((Decimal.padded places part).reverse.dropWhile (· = '0')).reverse
  Decimal.digits (n / Decimal.unit places) ++ if part = 0 then [] else '.' :: fraction

def chars (d : Duration) : List Char :=
  if 1000000000 ≤ d then decimalChars 9 d ++ ['s']
  else if 1000000 ≤ d then decimalChars 6 d ++ ['m', 's']
  else if 1000 ≤ d then decimalChars 3 d ++ ['µ', 's']
  else decimalChars 0 d ++ ['n', 's']

def text (d : Duration) : String := String.ofList d.chars

end Duration

end Paymaster
