import Paymaster.Proofs.Calendar.FirstInstants

/-
  Months as stretches of time, in a zone whose offset never changes.
  A local month is the stretch from the midnight of its first day up to the midnight with which the
  month that follows begins (`monthAt_fixed_iff`). Both midnights are instants, unless the month
  lies at one of the ends of time (`Month.dayStart_of_inner`). So the months tile the timeline: all
  instants of a month find the same two bounds, and the later of these starts the month that
  follows (`months_tile`).
-/

namespace Paymaster.Calendar

variable {offset : Int}

namespace Month

/-- The second of UTC at which a month starts by a clock of this offset. -/
def startSecond (offset : Int) (m : Month) : Int := m.firstDay * 86400 - offset

/-- The start of the month, by a clock of this offset. -/
def StartsAt (offset : Int) (m : Month) (t : Instant) : Prop :=
  t.seconds = m.startSecond offset ∧ t.nanos = 0

/-- A clock shows the month from its start until the month that follows starts. -/
theorem monthAt_fixed_iff {m : Month} {t : Instant} : monthAt (.fixed offset) t = m ↔
    m.startSecond offset ≤ t.seconds ∧ t.seconds < m.next.startSecond offset := by
  rw [monthAt, ofDay_eq_iff, localSeconds_fixed, startSecond, startSecond]
  omega

section
variable {m : Month} {start : Instant}

theorem StartsAt.le_iff (h : m.StartsAt offset start) (t : Instant) :
    start ≤ t ↔ m.startSecond offset ≤ t.seconds := by
  rw [← h.1, ← Int.not_lt, ← lt_iff_of_nanos_eq_zero h.2]
  exact Int.not_lt.symm

theorem StartsAt.lt_iff (h : m.StartsAt offset start) (t : Instant) :
    t < start ↔ t.seconds < m.startSecond offset := by
  rw [← h.1, lt_iff_of_nanos_eq_zero h.2]

theorem StartsAt.unique {other : Instant} (h : m.StartsAt offset start)
    (k : m.StartsAt offset other) : start = other := by
  apply Instant.rank_injective
  rw [Instant.rank, Instant.rank, h.1, h.2, k.1, k.2]

/-- From its start a clock shows the month. -/
theorem StartsAt.monthAt_eq (h : m.StartsAt offset start) : monthAt (.fixed offset) start = m := by
  have length := daysInMonth_pos (isLeap m.year) m.month
  have next := m.firstDay_next
  rw [monthAt_fixed_iff, h.1, startSecond, startSecond]
  omega

/-- At its start a clock shows the midnight of the first of the month. -/
theorem StartsAt.shows (h : m.StartsAt offset start) :
    (Zone.fixed offset).dateAt start = m.first ∧
      (Zone.fixed offset).localSeconds start % 86400 = 0 := by
  have shown : (Zone.fixed offset).localSeconds start = Zone.midnight m.first := by
    rw [localSeconds_fixed, h.1, startSecond, Zone.midnight, firstDay]
    omega
  refine ⟨dateAt_of_shows 0 (by decide) ⟨h.2, by rw [shown, Int.add_zero]⟩, ?_⟩
  rw [shown, Zone.midnight]
  omega

end

/-! ## The starts of months are instants -/

theorem year_next (m : Month) : m.year ≤ m.next.year ∧ m.next.year ≤ m.year + 1 := by
  unfold next
  split <;> dsimp only <;> omega

/-- The first days of the years after the first one, up to the last, lie in the range of instants;
so does a whole day before the earliest of them. -/
theorem firstDay_bounds {m : Month} (after : firstYear < m.year) (upTo : m.year ≤ lastYear) :
    firstSecond + 86400 ≤ m.firstDay * 86400 ∧ m.firstDay * 86400 + 86400 ≤ lastSecond := by
  have valid := m.valid
  have ends := daysBeforeMonth_add_le_year (isLeap m.year) m.month (by omega) valid.1
  have length := daysInMonth_pos (isLeap m.year) m.month
  have days : daysInYear (isLeap m.year) ≤ 366 := by
    unfold daysInYear
    split <;> decide
  rw [firstDay_eq]
  unfold daysBeforeYear epochDay
  unfold firstYear at after
  unfold lastYear at upTo
  unfold firstSecond lastSecond
  omega

theorem dayStart_of_inner (bounded : -86400 < offset ∧ offset < 86400) {m : Month}
    (inner : firstYear < m.year ∧ m.year ≤ lastYear) :
    ∃ start, dayStart (.fixed offset) m.first = .ok start ∧ m.StartsAt offset start := by
  have bounds := firstDay_bounds inner.1 inner.2
  obtain ⟨start, found⟩ : ∃ start, Instant.of? (m.startSecond offset) 0 = some start := by
    unfold Instant.of? startSecond
    rw [dif_pos ⟨⟨by omega, by omega⟩, by decide⟩]
    exact ⟨_, rfl⟩
  refine ⟨start, ?_, of?_eq_some_iff.1 found⟩
  rw [dayStart, earliest?_fixed]
  rw [startSecond, firstDay] at found
  rw [found]
  rfl

end Month

/-! ## Tiles -/

/-- The instants `start` and `next` bound the local month of `now`, and of every instant between
them. -/
structure Bounds (z : Zone) (now start next : Instant) : Prop where
  start_le : start ≤ now
  lt_next : now < next
  /-- The first of them is local midnight of the first of the month. -/
  startDate : z.dateAt start = ⟨(z.dateAt now).year, (z.dateAt now).month, 1⟩
  startMidnight : z.localSeconds start % 86400 = 0 ∧ start.nanos = 0
  /-- The second is local midnight of the first of the month that follows. -/
  nextDate : z.dateAt next =
    if (z.dateAt now).month = 12 then ⟨(z.dateAt now).year + 1, 1, 1⟩
    else ⟨(z.dateAt now).year, (z.dateAt now).month + 1, 1⟩
  nextMidnight : z.localSeconds next % 86400 = 0 ∧ next.nanos = 0
  /-- Every instant between them finds the same two. -/
  within : ∀ t, start ≤ t → t < next → monthStart z t = .ok start ∧ nextMonthStart z t = .ok next
  /-- The months follow each other without a gap. -/
  onward : monthStart z next = .ok next

section
variable (bounded : -86400 < offset ∧ offset < 86400) {m : Month}
include bounded

/-- All instants of a month find its start. -/
theorem exists_monthStart (inner : firstYear < m.year ∧ m.year ≤ lastYear) :
    ∃ start, m.StartsAt offset start ∧
      ∀ t, monthAt (.fixed offset) t = m → monthStart (.fixed offset) t = .ok start := by
  obtain ⟨start, found, starts⟩ := Month.dayStart_of_inner bounded inner
  have dated : hasYear m.year := by
    rw [hasYear, decide_eq_true_eq]
    omega
  refine ⟨start, starts, fun t here => ?_⟩
  rw [monthStart_eq, here, if_pos dated, found]

/-- All instants of a month find the start of the month that follows. -/
theorem exists_nextMonthStart (inner : firstYear < m.year ∧ m.year < lastYear) :
    ∃ next, m.next.StartsAt offset next ∧
      ∀ t, monthAt (.fixed offset) t = m → nextMonthStart (.fixed offset) t = .ok next := by
  have year := m.year_next
  obtain ⟨next, found, starts⟩ :=
    Month.dayStart_of_inner bounded (m := m.next) ⟨by omega, by omega⟩
  have dated : hasYear m.year ∧ hasYear m.next.year := by
    simp only [hasYear, decide_eq_true_eq]
    omega
  refine ⟨next, starts, fun t here => ?_⟩
  rw [nextMonthStart_eq, here, if_pos dated, found]

/-- On a clock of constant offset every instant lies between the start of its month and that of the
month that follows, and these two are the bounds of all instants between them. -/
theorem months_tile {now : Instant}
    (inner : firstYear < ((Zone.fixed offset).dateAt now).year ∧
      ((Zone.fixed offset).dateAt now).year < lastYear) :
    ∃ start next, monthStart (.fixed offset) now = .ok start ∧
      nextMonthStart (.fixed offset) now = .ok next ∧ Bounds (.fixed offset) now start next := by
  let m := monthAt (.fixed offset) now
  have inner : firstYear < m.year ∧ m.year < lastYear := inner
  have year := m.year_next
  obtain ⟨start, starts, found⟩ :=
    exists_monthStart bounded (m := m) ⟨inner.1, Int.le_of_lt inner.2⟩
  obtain ⟨next, follows, foundNext⟩ := exists_nextMonthStart bounded (m := m) inner
  obtain ⟨later, again, foundLater⟩ :=
    exists_monthStart bounded (m := m.next) ⟨by omega, by omega⟩
  obtain rfl : later = next := again.unique follows
  have here := Month.monthAt_fixed_iff.1 (rfl : monthAt (.fixed offset) now = m)
  refine ⟨start, later, found now rfl, foundNext now rfl, {
    start_le := (starts.le_iff now).2 here.1
    lt_next := (follows.lt_iff now).2 here.2
    startDate := starts.shows.1
    startMidnight := ⟨starts.shows.2, starts.2⟩
    nextDate := follows.shows.1.trans (Month.firstOfNextMonth_eq m _).symm
    nextMidnight := ⟨follows.shows.2, follows.2⟩
    within := fun t begun before => ?_
    onward := foundLater later follows.monthAt_eq }⟩
  have same : monthAt (.fixed offset) t = m :=
    Month.monthAt_fixed_iff.2 ⟨(starts.le_iff t).1 begun, (follows.lt_iff t).1 before⟩
  exact ⟨found t same, foundNext t same⟩

end

/-- The leap second with which the year 2016 ended, on a clock that is behind UTC by hours, minutes
and seconds: it is still December there, and the next year begins almost five hours later. -/
theorem months_tile_leapSecond :
    let now : Instant := { seconds := 1483228799, nanos := 1500000000 }
    let next : Instant := { seconds := 1483246562, nanos := 0 }
    nextMonthStart (.fixed (-17762)) now = .ok next ∧ now < next ∧
      (Zone.fixed (-17762)).dateAt next = ⟨2017, 1, 1⟩ ∧
        monthStart (.fixed (-17762)) next = .ok next := by
  intro now next
  have december : (Zone.fixed (-17762)).dateAt now = ⟨2016, 12, 31⟩ := by decide +kernel
  have inner : firstYear < ((Zone.fixed (-17762)).dateAt now).year ∧
      ((Zone.fixed (-17762)).dateAt now).year < lastYear := by
    rw [december]
    decide
  obtain ⟨start, found, -, followed, bounds⟩ := months_tile (by decide) inner
  have value : nextMonthStart (.fixed (-17762)) now = .ok next := by decide +kernel
  obtain rfl : next = found := Except.ok.inj (value.symm.trans followed)
  refine ⟨value, bounds.lt_next, ?_, bounds.onward⟩
  rw [bounds.nextDate, december]
  rfl

end Paymaster.Calendar
