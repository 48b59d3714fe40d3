import Paymaster.Toml.Basic
import Paymaster.Toml.Text
import Paymaster.Calendar.Date

/-
  The scalar values of TOML: numbers, dates and times, and the words true, false, inf and nan.
  Underscores may part the digits of a number, one at a time. An integer has 64 bits; a float may
  not round to positive infinity. A date must be one of the calendar.
-/

namespace Paymaster.Toml

/-! ## Numbers -/

/-- The digits that follow a digit, each with at most one underscore before it. -/
def moreDigits? (isDigit : Char → Bool) : List Char → Option (List Char × List Char)
  | [] => some ([], [])
  | '_' :: c :: rest =>
    if isDigit c then (moreDigits? isDigit rest).map fun (ds, rest) => (c :: ds, rest) else none
  | c :: rest =>
    if isDigit c then (moreDigits? isDigit rest).map fun (ds, rest) => (c :: ds, rest)
    else some ([], c :: rest)

/-- Digits, at least one, parted by underscores. -/
def digits? (isDigit : Char → Bool) : List Char → Option (List Char × List Char)
  | [] => none
  | c :: rest =>
    if isDigit c then (moreDigits? isDigit rest).map fun (ds, rest) => (c :: ds, rest) else none

/-- A sign, if one is there: whether it is a minus. -/
def sign : List Char → Bool × List Char
  | '+' :: rest => (false, rest)
  | '-' :: rest => (true, rest)
  | cs => (false, cs)

/-- The digits of a decimal number; a zero in front stands alone. -/
def decimal? : List Char → Option (List Char × List Char)
  | '0' :: rest => some (['0'], rest)
  | cs => digits? Char.isDigit cs

/-- An integer, if 64 bits hold it. -/
def word? (n : Int) : Option Value :=
  if Int64.minValue.toInt ≤ n ∧ n ≤ Int64.maxValue.toInt then some (.integer n) else none

/-- A numeral to a base. -/
def based? (base : Nat) (cs : List Char) : Option (Value × List Char) := do
  let (ds, rest) ← digits? (Numeral.isDigit base) cs
  some (← word? (← Numeral.value? base ds), rest)

def integer? : List Char → Option (Value × List Char)
  | '0' :: 'x' :: rest => based? 16 rest
  | '0' :: 'o' :: rest => based? 8 rest
  | '0' :: 'b' :: rest => based? 2 rest
  | cs => do
    let (negative, cs) := sign cs
    let (ds, rest) ← decimal? cs
    let n : Int := Decimal.value ds
    some (← word? (if negative then -n else n), rest)

/-- The least value that rounds to infinity: half a unit above the largest finite one. -/
def firstInfinite : Nat := Nat.pow 2 1024 - Nat.pow 2 970

/-- Whether `digits` times that power of ten rounds to a finite value. Outside the exponents at
which the largest finite value lies, the number of digits tells. -/
def roundsFinite (digits : List Char) (exponent : Int) : Bool :=
  let n := Decimal.value digits
  let magnitude := (Decimal.digits n).length + exponent
  if n = 0 || magnitude < 300 then true
  else if 320 < magnitude then false
  else if 0 ≤ exponent then n * Decimal.unit exponent.toNat < firstInfinite
  else n < firstInfinite * Decimal.unit (-exponent).toNat

/-- The digits after a point, if one follows. -/
def fraction? : List Char → Option (List Char × List Char)
  | '.' :: rest => digits? Char.isDigit rest
  | cs => some ([], cs)

/-- A power of ten, if one follows. -/
def exponent? : List Char → Option (Option Int × List Char)
  | [] => some (none, [])
  | c :: rest =>
    if c = 'e' ∨ c = 'E' then do
      let (negative, rest) := sign rest
      let (ds, rest) ← digits? Char.isDigit rest
      let n : Int := Decimal.value ds
      some (some (if negative then -n else n), rest)
    else some (none, c :: rest)

/-- A number with a fraction, an exponent or both. -/
def float? (cs : List Char) : Option (Value × List Char) := do
  let (negative, cs) := sign cs
  let (whole, cs) ← decimal? cs
  let (fraction, cs) ← fraction? cs
  let (exponent, cs) ← exponent? cs
  if fraction.isEmpty && exponent.isNone then none
  else if negative || roundsFinite (whole ++ fraction) (exponent.getD 0 - fraction.length) then
    some (.float, cs)
  else none

/-- Infinity or no number, by name. -/
def specialFloat? (cs : List Char) : Option (Value × List Char) :=
  match (sign cs).2 with
  | 'i' :: 'n' :: 'f' :: rest => some (.float, rest)
  | 'n' :: 'a' :: 'n' :: rest => some (.float, rest)
  | _ => none

/-! ## Dates and times -/

/-- A number of `width` digits between two bounds. -/
def field? (width low high : Nat) (cs : List Char) : Option (Nat × List Char) :=
  let (ds, rest) := Decimal.span width cs
  let n := Decimal.value ds
  if ds.length = width ∧ low ≤ n ∧ n ≤ high then some (n, rest) else none

/-- Drops the given character. -/
def mark? (mark : Char) : List Char → Option (List Char)
  | [] => none
  | c :: rest => if c = mark then some rest else none

def date? (cs : List Char) : Option (List Char) := do
  let (year, cs) ← field? 4 0 9999 cs
  let cs ← mark? '-' cs
  let (month, cs) ← field? 2 1 12 cs
  let cs ← mark? '-' cs
  let (_, cs) ← field? 2 1 (Calendar.daysInMonth (Calendar.isLeap year) month) cs
  some cs

/-- Drops the fraction of a second. -/
def skipSecondFraction : List Char → List Char
  | '.' :: c :: rest => if c.isDigit then rest.dropWhile Char.isDigit else '.' :: c :: rest
  | cs => cs

def timeOfDay? (cs : List Char) : Option (List Char) := do
  let (_, cs) ← field? 2 0 23 cs
  let cs ← mark? ':' cs
  let (_, cs) ← field? 2 0 59 cs
  let cs ← mark? ':' cs
  let (_, cs) ← field? 2 0 60 cs
  some (skipSecondFraction cs)

def offset? : List Char → Option (List Char)
  | [] => none
  | c :: cs =>
    if c = 'Z' ∨ c = 'z' then some cs
    else if c = '+' ∨ c = '-' then do
      let (_, cs) ← field? 2 0 23 cs
      let cs ← mark? ':' cs
      let (_, cs) ← field? 2 0 59 cs
      some cs
    else none

/-- The time of day after a date, if one follows, and its offset, if one follows that. -/
def skipTime (cs : List Char) : List Char :=
  match cs with
  | [] => []
  | c :: rest =>
    if c = 'T' ∨ c = 't' ∨ c = ' ' then
      match timeOfDay? rest with
      | some rest => (offset? rest).getD rest
      | none => cs
    else cs

def datetime? (cs : List Char) : Option (Value × List Char) :=
  match date? cs with
  | some rest => some (.datetime, skipTime rest)
  | none => (timeOfDay? cs).map fun rest => (.datetime, rest)

/-! ## Scalars -/

/-- A value that holds no other values. -/
def scalar? : List Char → Option (Value × List Char)
  | 't' :: 'r' :: 'u' :: 'e' :: rest => some (.boolean true, rest)
  | 'f' :: 'a' :: 'l' :: 's' :: 'e' :: rest => some (.boolean false, rest)
  | cs =>
    ((string? cs).map fun (s, rest) => (.string s, rest)).or
      ((datetime? cs).or ((float? cs).or ((specialFloat? cs).or (integer? cs))))

end Paymaster.Toml
