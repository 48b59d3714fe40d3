import Paymaster.Text.Decimal

/-
  Text spelled with letters, digits and hyphens only.
  The characters of ASCII stand first, up to the last hyphen. The digits after it are a row of
  numbers, each of which says how far to count from the last character that was put in, through
  the places of the text and then the code points, to the next one. A number ends with a digit
  below the threshold of its place; the thresholds follow the size of the numbers before.
-/

namespace Paymaster.Punycode

/-- A text that is being put together. -/
structure Progress where
  chars : List Char
  /-- The code point of the last character that was put in. -/
  point : Nat := 128
  /-- The count within the row of places, with the digits of the current number so far. -/
  index : Nat := 0
  /-- The count at which the current number starts. -/
  start : Nat := 0
  /-- What a digit at this place of the number is worth. -/
  weight : Nat := 1
  /-- How many digits of the current number have been read. -/
  place : Nat := 0
  bias : Nat := 72

/-- Letters are the digits 0 to 25, numerals 26 to 35. -/
def digit? (c : Char) : Option Nat :=
  if 'a' ≤ c ∧ c ≤ 'z' then some (c.toNat - 'a'.toNat)
  else if c.isDigit then some (c.toNat - '0'.toNat + 26)
  else none

def threshold (bias place : Nat) : Nat := max 1 (min 26 (36 * (place + 1) - bias))

/-- How often 35 goes into a number until it is at most 455, and what is left. -/
def reduce (n : Nat) : Nat × Nat :=
  if 455 < n then
    let (times, rest) := reduce (n / 35)
    (times + 1, rest)
  else (0, n)
termination_by n
decreasing_by omega

/-- The bias after a number, in a text that now has `length` characters. -/
def adapt (number length : Nat) (isFirst : Bool) : Nat :=
  let n := number / if isFirst then 700 else 2
  let (times, rest) := reduce (n + n / length)
  36 * times + 36 * rest / (rest + 38)

/-- Reads one digit; the last one of a number puts a character in. -/
def step (p : Progress) (c : Char) : Option Progress := do
  let digit ← digit? c
  let bound := threshold p.bias p.place
  let index := p.index + digit * p.weight
  if bound ≤ digit then
    some { p with index, weight := p.weight * (36 - bound), place := p.place + 1 }
  else
    let length := p.chars.length + 1
    let point := p.point + index / length
    let position := index % length
    if point.isValidChar then
      some {
        chars := p.chars.take position ++ Char.ofNat point :: p.chars.drop position
        point
        index := position + 1
        start := position + 1
        bias := adapt (index - p.start) length (p.start = 0) }
    else none

/-- The text that is spelled. -/
def decode? (cs : List Char) : Option (List Char) := do
  let reversed := cs.reverse
  let digits := (reversed.takeWhile (· ≠ '-')).reverse
  let basic := (reversed.dropWhile (· ≠ '-')).tail.reverse
  if basic.any (0x80 ≤ ·.toNat) then none
  else
    let p ← digits.foldlM step { chars := basic }
    if p.place = 0 then some p.chars else none

end Paymaster.Punycode
