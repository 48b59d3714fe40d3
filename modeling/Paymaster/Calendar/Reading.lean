import Paymaster.Calendar.Instant
import Paymaster.Text.Blank

/-
  Reading instants from RFC 3339 text.
  The reader is more generous than the printer: numbers may be short (month, day, hour, minute and
  second have one or two digits, an unsigned year has up to four) and may follow white space, the
  date and the time are parted by T, t or a space, and the offset from UTC is Z, z, UTC, or a sign,
  two digits of hours and two of minutes. Digits of the fraction past the ninth are dropped.
  Second 60 is the leap second of its minute.
-/

namespace Paymaster.Calendar

/-- A number of one to `width` digits after optional white space, and the text that follows. -/
def number? (width : Nat) (cs : List Char) : Option (Nat × List Char) :=
  match Decimal.span width (Text.skipBlanks cs) with
  | ([], _) => none
  | (ds, rest) => some (Decimal.value ds, rest)

/-- A year: four digits at most, or a sign and any number of digits. -/
def year? (cs : List Char) : Option (Int × List Char) :=
  match Text.skipBlanks cs with
  | '-' :: rest =>
    match Decimal.run rest with
    | ([], _) => none
    | (ds, rest) => some (-(Decimal.value ds : Int), rest)
  | '+' :: rest =>
    match Decimal.run rest with
    | ([], _) => none
    | (ds, rest) => some (Decimal.value ds, rest)
  | rest => (number? 4 rest).map fun (n, rest) => (n, rest)

/-- The given character after optional white space. -/
def mark? (mark : Char) (cs : List Char) : Option (List Char) :=
  match Text.skipBlanks cs with
  | c :: rest => if c = mark then some rest else none
  | [] => none

def date? (cs : List Char) : Option (Date × List Char) := do
  let (year, cs) ← year? cs
  let cs ← mark? '-' cs
  let (month, cs) ← number? 2 cs
  let cs ← mark? '-' cs
  let (day, cs) ← number? 2 cs
  let date : Date := ⟨year, month, day⟩
  if date.IsValid ∧ firstYear ≤ year ∧ year ≤ lastYear then some (date, cs) else none

/-- The nanoseconds of an optional fraction; digits past the ninth are dropped. -/
def fraction? (cs : List Char) : Option (Nat × List Char) :=
  match cs with
  | '.' :: rest =>
    match Decimal.span 9 rest with
    | ([], _) => none
    | (ds, rest) => some (Decimal.value ds * Decimal.unit (9 - ds.length), (Decimal.run rest).2)
  | rest => some (0, rest)

/-- The second of the day and the nanoseconds within it. -/
def timeOfDay? (cs : List Char) : Option ((Nat × Nat) × List Char) := do
  let (hour, cs) ← number? 2 cs
  let cs ← mark? ':' cs
  let (minute, cs) ← number? 2 cs
  let cs ← mark? ':' cs
  let (second, cs) ← number? 2 cs
  let (nanos, cs) ← fraction? cs
  if hour < 24 ∧ minute < 60 ∧ second ≤ 60 then
    let start := hour * 3600 + minute * 60
    if second = 60 then some ((start + 59, nanos + 1000000000), cs)
    else some ((start + second, nanos), cs)
  else none

/-- Two digits. -/
def pair? (cs : List Char) : Option (Nat × List Char) :=
  match Decimal.span 2 cs with
  | ([a, b], rest) => some (Decimal.value [a, b], rest)
  | _ => none

/-- The sign of an offset: a plus, a hyphen or the minus sign. -/
def sign? : List Char → Option (Int × List Char)
  | '+' :: rest => some (1, rest)
  | '-' :: rest => some (-1, rest)
  | '\u2212' :: rest => some (-1, rest)
  | _ => none

/-- The seconds east of UTC. -/
def offset? (cs : List Char) : Option (Int × List Char) :=
  match Text.skipBlanks cs with
  | 'Z' :: rest => some (0, rest)
  | 'z' :: rest => some (0, rest)
  | cs =>
    if (cs.take 3).map Char.toLower = ['u', 't', 'c'] then some (0, cs.drop 3)
    else do
      let (sign, cs) ← sign? cs
      let (hours, cs) ← pair? cs
      let (minutes, cs) ← pair? (cs.dropWhile fun c => c = ':' || Text.isBlank c)
      if hours < 24 ∧ minutes < 60 then some (sign * (hours * 3600 + minutes * 60), cs) else none

/-- The instant that the whole text stands for. -/
def readInstant? (text : String) : Option Instant := do
  let (date, cs) ← date? text.toList
  let cs ← match cs with
    | 'T' :: cs => some cs
    | 't' :: cs => some cs
    | ' ' :: cs => some cs
    | _ => none
  let ((second, nanos), cs) ← timeOfDay? cs
  let (offset, cs) ← offset? cs
  if Text.skipBlanks cs = [] then Instant.of? (date.toDays * 86400 + second - offset) nanos
  else none

end Paymaster.Calendar
