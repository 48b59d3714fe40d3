import Paymaster.Proofs.Calendar.Months

/-
  The first instants of months in a zone whose offset never changes.
  The local clock runs evenly there, so a month starts at the local midnight of its first day,
  unless that lies before the range of instants. `monthStart` is then not after the instant that
  asks (`monthStart_le`), and `nextMonthStart` parts the months up to that of the instant from the
  later ones (`lt_nextMonthStart_iff`).
-/

namespace Paymaster.Calendar

/-- The month that a local clock shows. -/
def monthAt (z : Zone) (t : Instant) : Month := .ofDay (z.localSeconds t / 86400)

/-! ## Instants and seconds -/

theorem seconds_le_of_le {a b : Instant} (h : a ≤ b) : a.seconds ≤ b.seconds := by
  have h : a.rank ≤ b.rank := h
  have := a.nanos_lt
  have := b.nanos_lt
  simp only [Instant.rank, Instant.rankOf] at h
  omega

/-- Before a whole second is within an earlier second. -/
theorem lt_iff_of_nanos_eq_zero {a b : Instant} (h : b.nanos = 0) :
    a < b ↔ a.seconds < b.seconds := by
  have := a.nanos_lt
  show a.rank < b.rank ↔ _
  simp only [Instant.rank, Instant.rankOf, h]
  omega

theorem not_isLeapSecond_of_whole {t : Instant} (whole : t.nanos = 0) : ¬t.isLeapSecond := by
  simp [Instant.isLeapSecond, whole]

theorem of?_eq_some_iff {seconds : Int} {t : Instant} :
    Instant.of? seconds 0 = some t ↔ t.seconds = seconds ∧ t.nanos = 0 := by
  constructor
  · intro h
    unfold Instant.of? at h
    split at h
    · cases h
      exact ⟨rfl, rfl⟩
    · cases h
  · rintro ⟨rfl, whole⟩
    have inRange : (firstSecond ≤ t.seconds ∧ t.seconds ≤ lastSecond) ∧ 0 < 2000000000 :=
      ⟨t.inRange.1, by decide⟩
    rw [Instant.of?, dif_pos inRange]
    obtain ⟨seconds, nanos, _⟩ := t
    cases whole
    rfl

/-! ## Zones of constant offset -/

variable {offset : Int}

theorem localSeconds_fixed (offset : Int) (t : Instant) :
    (Zone.fixed offset).localSeconds t = t.seconds + offset := rfl

theorem earliest?_fixed (offset seconds : Int) :
    (Zone.fixed offset).earliest? seconds = Instant.of? (seconds - offset) 0 := by
  have offsets : (Zone.fixed offset).offsetsShowing seconds = [offset] := by
    simp [Zone.offsetsShowing, Zone.offsets, Zone.offsetAtRank, Zone.fixed]
  rw [Zone.earliest?, Zone.instantsOf, offsets]
  rcases found : Instant.of? (seconds - offset) 0 with _ | t <;> simp [found]

/-- A day starts at its midnight, unless that lies before all instants. -/
theorem dayStart_fixed {date : Date} {start : Instant}
    (h : dayStart (Zone.fixed offset) date = .ok start)
    (inRange : firstSecond ≤ date.toDays * 86400 - offset) :
    start.seconds = date.toDays * 86400 - offset ∧ start.nanos = 0 := by
  simp only [dayStart, earliest?_fixed] at h
  rcases midnight : Instant.of? (date.toDays * 86400 - offset) 0 with _ | t
  · rw [midnight] at h
    -- Midnight lies after all instants, and one o'clock does so all the more.
    have late : lastSecond < date.toDays * 86400 - offset := by
      unfold Instant.of? at midnight
      split at midnight
      · cases midnight
      · omega
    have : Instant.of? (date.toDays * 86400 + 3600 - offset) 0 = none := by
      unfold Instant.of?
      rw [dif_neg]
      omega
    rw [this] at h
    cases h
  · rw [midnight] at h
    cases h
    exact of?_eq_some_iff.1 midnight

/-- Midnight of the first of the month that a clock shows is not after the clock. -/
theorem firstDay_monthAt_le (offset : Int) (t : Instant) :
    (monthAt (Zone.fixed offset) t).firstDay * 86400 - offset ≤ t.seconds ∧
      t.seconds < (monthAt (Zone.fixed offset) t).next.firstDay * 86400 - offset := by
  have spec := Month.ofDay_spec ((t.seconds + offset) / 86400)
  simp only [monthAt, localSeconds_fixed]
  omega

theorem monthStart_eq (z : Zone) (t : Instant) :
    monthStart z t = if hasYear (monthAt z t).year then dayStart z (monthAt z t).first
      else .error (.noFirstDay (monthAt z t).year (monthAt z t).month) := rfl

theorem nextMonthStart_eq (z : Zone) (t : Instant) :
    nextMonthStart z t =
      if hasYear (monthAt z t).year ∧ hasYear (monthAt z t).next.year then
        dayStart z (monthAt z t).next.first
      else .error (.noNextMonth (monthAt z t).year (monthAt z t).month) := by
  rw [show (monthAt z t).next.year = (firstOfNextMonth (z.dateAt t)).year from
      congrArg Date.year (Month.firstOfNextMonth_eq (monthAt z t) (z.dateAt t).day).symm,
    ← Month.firstOfNextMonth_eq (monthAt z t) (z.dateAt t).day]
  rfl

/-- The start of a month, a month after the first instant or later. -/
theorem monthStart_fixed {t start : Instant} (inner : firstSecond + 2678400 ≤ t.seconds)
    (h : monthStart (Zone.fixed offset) t = .ok start) :
    start.seconds = (monthAt (Zone.fixed offset) t).firstDay * 86400 - offset ∧
      start.nanos = 0 := by
  rw [monthStart_eq] at h
  split at h
  · refine dayStart_fixed h ?_
    have spec := firstDay_monthAt_le offset t
    rw [Month.firstDay_next] at spec
    have := daysInMonth_pos (isLeap (monthAt (Zone.fixed offset) t).year)
      (monthAt (Zone.fixed offset) t).month
    simp only [Month.firstDay] at spec
    omega
  · cases h

theorem monthStart_le {t start : Instant} (inner : firstSecond + 2678400 ≤ t.seconds)
    (h : monthStart (Zone.fixed offset) t = .ok start) : start ≤ t := by
  obtain ⟨seconds, nanos⟩ := monthStart_fixed inner h
  have spec := firstDay_monthAt_le offset t
  show start.rank ≤ t.rank
  simp only [Instant.rank, Instant.rankOf, nanos]
  omega

theorem nextMonthStart_fixed {t start : Instant}
    (h : nextMonthStart (Zone.fixed offset) t = .ok start) :
    start.seconds = (monthAt (Zone.fixed offset) t).next.firstDay * 86400 - offset ∧
      start.nanos = 0 := by
  rw [nextMonthStart_eq] at h
  split at h
  · refine dayStart_fixed h ?_
    have spec := firstDay_monthAt_le offset t
    have := t.first_le
    simp only [Month.firstDay] at spec
    omega
  · cases h

theorem index_monthAt_le (offset : Int) {t u : Instant} (h : t ≤ u) :
    (monthAt (Zone.fixed offset) t).index ≤ (monthAt (Zone.fixed offset) u).index := by
  have := seconds_le_of_le h
  apply Month.index_ofDay_le
  rw [localSeconds_fixed, localSeconds_fixed]
  omega

/-- Before the start of the next month are the instants of the month and of earlier ones. -/
theorem lt_nextMonthStart_iff {t start : Instant}
    (h : nextMonthStart (Zone.fixed offset) t = .ok start) (u : Instant) :
    u < start ↔
      (monthAt (Zone.fixed offset) u).index ≤ (monthAt (Zone.fixed offset) t).index := by
  obtain ⟨seconds, nanos⟩ := nextMonthStart_fixed h
  have spec := firstDay_monthAt_le offset u
  rw [lt_iff_of_nanos_eq_zero nanos, seconds]
  constructor
  · intro before
    refine Int.not_lt.1 fun later => ?_
    have := Month.firstDay_next_le later
    omega
  · intro early
    have := Month.firstDay_next_le (a := monthAt (Zone.fixed offset) u)
      (b := (monthAt (Zone.fixed offset) t).next) (by rw [Month.index_next]; omega)
    omega

end Paymaster.Calendar
