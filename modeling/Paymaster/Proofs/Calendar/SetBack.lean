import Paymaster.Proofs.Calendar.FirstInstants

/-
  Local clocks that are set back, and the month that follows.
  The start of the month that follows shows a later local time than the instant that asks, in any
  zone (`localSeconds_lt_nextMonthStart`). So it lies after the instant, unless the local clock was
  set back between the two (`lt_nextMonthStart_iff_not_setBack`), which takes a change of the
  offset (`Zone.SetBack.exists_change`).
-/

namespace Paymaster

open Calendar

namespace Zone

variable {z : Zone} {a b : Instant}

/-- From `a` to `b`, which is not before it, the local clock was set back to before what it showed
at `a`. -/
def SetBack (z : Zone) (a b : Instant) : Prop := a ≤ b ∧ z.localSeconds b < z.localSeconds a

/-- A clock is set back by a change to a lower offset. -/
theorem SetBack.exists_change (h : z.SetBack a b) :
    z.offsetAt b < z.offsetAt a ∧ ∃ change ∈ z.changes, a < change.1 ∧ change.1 ≤ b := by
  obtain ⟨onward, back⟩ := h
  have seconds := seconds_le_of_le onward
  have lower : z.offsetAt b < z.offsetAt a := by
    unfold localSeconds at back
    omega
  refine ⟨lower, ?_⟩
  by_contra steady
  push Not at steady
  exact Int.ne_of_lt lower (offsetAt_eq_of_steady onward steady).symm

end Zone

namespace Calendar

variable {z : Zone} {now start : Instant}

/-- The start of the month that follows is a whole second, and the local clock shows a later time
there than at the instant that asks. -/
theorem localSeconds_lt_nextMonthStart (h : nextMonthStart z now = .ok start) :
    start.nanos = 0 ∧ z.localSeconds now < z.localSeconds start := by
  rw [nextMonthStart_eq] at h
  split at h
  · have starts := starts_dayStart z (monthAt z now).next
    have day := Zone.toDays_dateAt z start
    rw [starts.dated start h] at day
    have before := (Month.ofDay_spec (z.localSeconds now / 86400)).2
    have next : (monthAt z now).next.firstDay = z.localSeconds start / 86400 := day
    unfold monthAt at next
    exact ⟨dayStart_whole h, by omega⟩
  · cases h

/-- The month that follows starts after the instant that asks, unless the local clock was set back
from that start to the instant. -/
theorem lt_nextMonthStart_iff_not_setBack (h : nextMonthStart z now = .ok start) :
    now < start ↔ ¬z.SetBack start now := by
  obtain ⟨-, later⟩ := localSeconds_lt_nextMonthStart h
  constructor
  · rintro ahead ⟨passed, -⟩
    exact Int.not_lt.2 passed ahead
  · intro steady
    exact Int.not_le.1 fun passed => steady ⟨passed, later⟩

end Calendar

end Paymaster
