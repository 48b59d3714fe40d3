import Paymaster.Calendar.Instant

/-
  Time zones: a base offset from UTC and the instants at which the offset changes.
  `offsetAt` gives the local time of an instant. The other way need not be unique: a local time
  that a change skips belongs to no instant, one that a change repeats to several, and
  `earliest?` takes the first of them. A local time of which one reading lies outside the range of
  instants belongs to none.
-/

namespace Paymaster

structure Zone where
  /-- Seconds east of UTC before the first change. -/
  base : Int
  /-- The changes in the order of time, each with the offset from then on. -/
  changes : List (Instant × Int)
deriving DecidableEq, Repr

namespace Zone

/-- A zone whose offset never changes. -/
def fixed (offset : Int) : Zone := ⟨offset, []⟩

def utc : Zone := fixed 0

/-- The offset of the last change that is not after a place in the order of time. -/
def offsetAtRank (z : Zone) (rank : Int) : Int :=
  z.changes.foldl (fun offset change => if change.1.rank ≤ rank then change.2 else offset) z.base

/-- The offset of the last change that is not after `t`. -/
def offsetAt (z : Zone) (t : Instant) : Int := z.offsetAtRank t.rank

/-- The seconds that a local clock has counted from 1970-01-01T00:00:00 of its own. -/
def localSeconds (z : Zone) (t : Instant) : Int := t.seconds + z.offsetAt t

/-- The local date. -/
def dateAt (z : Zone) (t : Instant) : Date := Date.ofDays (z.localSeconds t / 86400)

def offsets (z : Zone) : List Int := z.base :: z.changes.map (·.2)

/-- The offsets under which a local clock shows `seconds`. -/
def offsetsShowing (z : Zone) (seconds : Int) : List Int :=
  z.offsets.filter fun offset => z.offsetAtRank (Instant.rankOf (seconds - offset) 0) = offset

/-- The whole-second instants at which a local clock shows `seconds`, unless one of them would lie
outside the range of instants. -/
def instantsOf (z : Zone) (seconds : Int) : List Instant :=
  ((z.offsetsShowing seconds).mapM fun offset => Instant.of? (seconds - offset) 0).getD []

/-- The first instant at which a local clock shows `seconds`. -/
def earliest? (z : Zone) (seconds : Int) : Option Instant :=
  match z.instantsOf seconds with
  | [] => none
  | t :: ts => some (ts.foldl (fun a b => if b < a then b else a) t)

end Zone

end Paymaster
