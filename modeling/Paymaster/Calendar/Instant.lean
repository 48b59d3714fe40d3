import Paymaster.Calendar.Date
import Paymaster.Duration

/-
  Instants: seconds since 1970-01-01T00:00:00 and the nanoseconds within the second.
  A leap second has no number of its own; it is the second before it with a billion nanoseconds
  more, so it lies after every other instant of that second and before the next (`Instant.rank`).
  Instants reach from the first day of year -262143 to the last day of year 262142.
  `Instant.chars` is the printed form, with a fraction of 0, 3, 6 or 9 digits. It shows a leap
  second one higher than the second before it: as second 60 at the end of a minute, and within a
  minute just as the second that follows.
-/

namespace Paymaster

namespace Calendar

def firstYear : Int := -262143

def lastYear : Int := 262142

/-- The first second of the first year. -/
def firstSecond : Int := -8334601228800

/-- The last second of the last year. -/
def lastSecond : Int := 8210266876799

end Calendar

structure Instant where
  seconds : Int
  nanos : Nat
  inRange : (Calendar.firstSecond ≤ seconds ∧ seconds ≤ Calendar.lastSecond) ∧
    nanos < 2000000000 := by decide
deriving DecidableEq, Repr

namespace Instant

theorem first_le (t : Instant) : Calendar.firstSecond ≤ t.seconds := t.inRange.1.1

theorem le_last (t : Instant) : t.seconds ≤ Calendar.lastSecond := t.inRange.1.2

theorem nanos_lt (t : Instant) : t.nanos < 2000000000 := t.inRange.2

def first : Instant := { seconds := Calendar.firstSecond, nanos := 0 }

def last : Instant := { seconds := Calendar.lastSecond, nanos := 999999999 }

/-- The instant with these parts, if there is one. -/
def of? (seconds : Int) (nanos : Nat) : Option Instant :=
  if h : (Calendar.firstSecond ≤ seconds ∧ seconds ≤ Calendar.lastSecond) ∧ nanos < 2000000000 then
    some ⟨seconds, nanos, h⟩
  else none

/-- The place of these parts in the order of time, whether or not there is such an instant. -/
def rankOf (seconds : Int) (nanos : Nat) : Int := seconds * 2000000000 + nanos

/-- The place of the instant in the order of time. -/
def rank (t : Instant) : Int := rankOf t.seconds t.nanos

instance : LE Instant := ⟨fun a b => a.rank ≤ b.rank⟩

instance : LT Instant := ⟨fun a b => a.rank < b.rank⟩

instance (a b : Instant) : Decidable (a ≤ b) := inferInstanceAs (Decidable (a.rank ≤ b.rank))

instance (a b : Instant) : Decidable (a < b) := inferInstanceAs (Decidable (a.rank < b.rank))

instance : Max Instant := ⟨fun a b => if a ≤ b then b else a⟩

instance : Inhabited Instant := ⟨first⟩

theorem rank_injective {a b : Instant} (h : a.rank = b.rank) : a = b := by
  obtain ⟨s, n, _, hn⟩ := a
  obtain ⟨s', n', _, hn'⟩ := b
  simp only [rank, rankOf] at h
  have hs : s = s' := by omega
  have hn : n = n' := by omega
  subst hs hn
  rfl

def isLeapSecond (t : Instant) : Bool := 1000000000 ≤ t.nanos

/-- The instant `d` later, if there is one. A leap second lasts for its second. -/
def after? (t : Instant) (d : Duration) : Option Instant :=
  if t.isLeapSecond ∧ t.nanos + d < 2000000000 then of? t.seconds (t.nanos + d)
  else
    let total := t.nanos % 1000000000 + d
    of? (t.seconds + (total / 1000000000 : Nat)) (total % 1000000000)

/-- How long after `a` the instant `b` lies, zero if it lies before. A leap second counts if the
time of day goes up over it. -/
def lapse (a b : Instant) : Duration :=
  let counted : Int :=
    if a.isLeapSecond ∧ a.seconds % 86400 < b.seconds % 86400 then 1
    else if b.isLeapSecond ∧ b.seconds % 86400 < a.seconds % 86400 then -1
    else 0
  ((b.seconds - a.seconds + counted) * 1000000000 + (b.nanos - a.nanos)).toNat

/-! ## Printed form -/

/-- No fraction for a whole second, else the fewest of 3, 6 or 9 digits that are exact. -/
def fractionChars (nanos : Nat) : List Char :=
  if nanos = 0 then []
  else if nanos % 1000000 = 0 then '.' :: Decimal.padded 3 (nanos / 1000000)
  else if nanos % 1000 = 0 then '.' :: Decimal.padded 6 (nanos / 1000)
  else '.' :: Decimal.padded 9 nanos

/-- Date and time of day in UTC, parted by a T. -/
def chars (t : Instant) : List Char :=
  let second := (t.seconds % 86400).toNat
  (Date.ofDays (t.seconds / 86400)).chars ++ 'T' :: Decimal.padded 2 (second / 3600) ++
    ':' :: Decimal.padded 2 (second / 60 % 60) ++
    ':' :: Decimal.padded 2 (second % 60 + t.nanos / 1000000000) ++
    fractionChars (t.nanos % 1000000000)

/-- The form that a reader gets, closed by a Z. -/
def text (t : Instant) : String := String.ofList (t.chars ++ ['Z'])

/-- The form that the store keeps and compares, closed by the numeric offset of UTC. -/
def storedText (t : Instant) : String := String.ofList (t.chars ++ "+00:00".toList)

end Instant

end Paymaster
