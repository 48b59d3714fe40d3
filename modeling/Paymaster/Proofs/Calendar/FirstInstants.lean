import Mathlib.Data.Int.LeastGreatest
import Mathlib.Data.List.Basic
import Mathlib.Order.Bounds.Basic
import Paymaster.Proofs.Calendar.MonthStarts

/-
  The starts of months and the first instants of days, in any zone.
  Model (read this before the theorems). A local clock shows a whole second at no instant, at one
  or at several (`Zone.Shows`), and the start of a day is the first instant at which it shows
  midnight or, where midnight cannot be read back, one o'clock (`Zone.Readable`). The first instant
  of a day is the least one with its date.

  The clock enters a day through its midnight, unless the offset changes there or time begins
  there (`shows_midnight`). So the start of the first day of a month is the first instant of that
  day but for three causes (`Apart`). One of them is a change that skips midnight and does not end
  at one o'clock: the start is then not the first instant of the day, and may even be later than
  the instant whose month was asked for (`monthStart_after_now`).
-/

namespace Paymaster

open Calendar

/-! ## The order of instants -/

namespace Instant

/-- Among instants with a property there is a first one. -/
theorem exists_isLeast {P : Instant → Prop} (h : ∃ t, P t) : ∃ f, IsLeast {t | P t} f := by
  obtain ⟨t, ht⟩ := h
  obtain ⟨r, ⟨f, hf, same⟩, least⟩ := Int.exists_least_of_bdd (P := fun r => ∃ u, P u ∧ u.rank = r)
    ⟨Calendar.firstSecond * 2000000000, fun _ ⟨u, _, same⟩ => by
      have := u.first_le
      simp only [rank, rankOf] at same
      omega⟩
    ⟨t.rank, t, ht, rfl⟩
  exact ⟨f, hf, fun u hu => same.trans_le (least u.rank ⟨u, hu, rfl⟩)⟩

/-- Before the whole second `f` lies the last instant of the leap second after the second before. -/
theorem exists_pred_of_whole {f : Instant} (later : f ≠ first) (whole : f.nanos = 0) :
    ∃ p : Instant, p < f ∧ (∀ t : Instant, t < f → t ≤ p) ∧ p.seconds = f.seconds - 1 := by
  have high := f.le_last
  have inner : firstSecond < f.seconds := by
    refine lt_of_le_of_ne f.first_le fun same => later ?_
    apply rank_injective
    simp only [rank, rankOf, whole, first, same]
  refine ⟨⟨f.seconds - 1, 1999999999, ⟨by omega, by omega⟩, by decide⟩, ?_, fun t before => ?_, rfl⟩
  · rw [lt_iff_of_nanos_eq_zero whole]
    exact Int.sub_one_lt_of_le (Int.le_refl _)
  · rw [lt_iff_of_nanos_eq_zero whole] at before
    have within := t.nanos_lt
    show rank _ ≤ rank _
    simp only [rank, rankOf]
    omega

theorem exists_pred_of_part {f : Instant} (part : 0 < f.nanos) :
    ∃ p : Instant, p < f ∧ (∀ t : Instant, t < f → t ≤ p) ∧ p.seconds = f.seconds := by
  have within := f.nanos_lt
  refine ⟨⟨f.seconds, f.nanos - 1, f.inRange.1, by omega⟩, ?_, fun t before => ?_, rfl⟩
  · show rank _ < rank _
    simp only [rank, rankOf]
    omega
  · have before : rank t < rank f := before
    show rank _ ≤ rank _
    simp only [rank, rankOf] at before ⊢
    omega

/-- The instant just before `f`: in the same second, or the last one of the second before if `f` is
a whole second. -/
theorem exists_pred {f : Instant} (later : f ≠ first) :
    ∃ p : Instant, p < f ∧ (∀ t : Instant, t < f → t ≤ p) ∧
      (p.seconds = f.seconds ∨ f.nanos = 0 ∧ p.seconds = f.seconds - 1) := by
  rcases Nat.eq_zero_or_pos f.nanos with whole | part
  · obtain ⟨p, before, just, place⟩ := exists_pred_of_whole later whole
    exact ⟨p, before, just, .inr ⟨whole, place⟩⟩
  · obtain ⟨p, before, just, place⟩ := exists_pred_of_part part
    exact ⟨p, before, just, .inl place⟩

end Instant

namespace Zone

variable {z : Zone} {seconds : Int} {t : Instant}

/-! ## Reading a local clock back -/

/-- The whole second `t` is one at which a local clock shows `seconds`. -/
def Shows (z : Zone) (seconds : Int) (t : Instant) : Prop :=
  t.nanos = 0 ∧ z.localSeconds t = seconds

/-- No instant at which a local clock would show `seconds` lies outside the range of instants. -/
def InRange (z : Zone) (seconds : Int) : Prop :=
  ∀ offset ∈ z.offsetsShowing seconds, (Instant.of? (seconds - offset) 0).isSome

/-- There is an instant at which a local clock shows `seconds`, and none outside the range. -/
def Readable (z : Zone) (seconds : Int) : Prop := z.InRange seconds ∧ ∃ t, z.Shows seconds t

theorem offsetAtRank_mem (z : Zone) (rank : Int) : z.offsetAtRank rank ∈ z.offsets := by
  obtain ⟨base, changes⟩ := z
  unfold offsetAtRank offsets
  dsimp only
  induction changes generalizing base with
  | nil => exact List.mem_singleton_self _
  | cons change changes ih =>
    rw [List.foldl_cons, List.map_cons]
    split
    · exact List.mem_cons_of_mem _ (ih change.2)
    · rcases List.mem_cons.1 (ih base) with same | later
      · exact List.mem_cons.2 (.inl same)
      · exact List.mem_cons_of_mem _ (List.mem_cons_of_mem _ later)

theorem mapM_eq_filterMap {α β : Type} {f : α → Option β} {xs : List α}
    (h : ∀ x ∈ xs, (f x).isSome) : xs.mapM f = some (xs.filterMap f) := by
  induction xs with
  | nil => rfl
  | cons x xs ih =>
    obtain ⟨y, hy⟩ := Option.isSome_iff_exists.1 (h x List.mem_cons_self)
    simp [hy, ih fun x hx => h x (List.mem_cons_of_mem _ hx)]

theorem mapM_eq_none {α β : Type} {f : α → Option β} {xs : List α} {x : α} (hx : x ∈ xs)
    (h : f x = none) : xs.mapM f = none := by
  induction xs with
  | nil => cases hx
  | cons y ys ih =>
    rcases List.mem_cons.1 hx with rfl | hx
    · simp [h]
    · rcases f y with _ | b <;> simp_all

theorem mem_instantsOf (inRange : z.InRange seconds) :
    t ∈ z.instantsOf seconds ↔ z.Shows seconds t := by
  rw [instantsOf, mapM_eq_filterMap inRange, Option.getD_some, List.mem_filterMap]
  constructor
  · rintro ⟨offset, shows, found⟩
    obtain ⟨at', whole⟩ := of?_eq_some_iff.1 found
    have same := (List.mem_filter.1 shows).2
    rw [decide_eq_true_eq] at same
    refine ⟨whole, ?_⟩
    rw [localSeconds, offsetAt, Instant.rank, at', whole, same]
    omega
  · rintro ⟨whole, shown⟩
    have place : seconds - z.offsetAt t = t.seconds := by
      rw [← shown, localSeconds]
      omega
    refine ⟨z.offsetAt t, List.mem_filter.2 ⟨offsetAtRank_mem z _, ?_⟩,
      of?_eq_some_iff.2 ⟨place.symm, whole⟩⟩
    rw [decide_eq_true_eq, place, offsetAt, Instant.rank, whole]

theorem instantsOf_of_not_inRange (outside : ¬z.InRange seconds) :
    z.instantsOf seconds = [] := by
  unfold InRange at outside
  push Not at outside
  obtain ⟨offset, shows, none⟩ := outside
  rw [instantsOf, mapM_eq_none shows (Option.not_isSome_iff_eq_none.1 (by simpa using none)),
    Option.getD_none]

theorem isLeast_foldl (ts : List Instant) (t : Instant) :
    IsLeast {u | u ∈ t :: ts} (ts.foldl (fun a b => if b < a then b else a) t) := by
  induction ts generalizing t with
  | nil =>
    refine ⟨List.mem_singleton_self _, fun u hu => ?_⟩
    rw [List.mem_singleton.1 hu]
    exact Int.le_refl _
  | cons b ts ih =>
    obtain ⟨mem, least⟩ := ih (if b < t then b else t)
    have chosen : (if b < t then b else t) ∈ t :: b :: ts ∧ (if b < t then b else t) ≤ t ∧
        (if b < t then b else t) ≤ b := by
      split
      · exact ⟨by simp, Int.le_of_lt ‹_›, Int.le_refl _⟩
      · exact ⟨by simp, Int.le_refl _, Int.not_lt.1 ‹_›⟩
    have below := least List.mem_cons_self
    refine ⟨?_, fun u hu => ?_⟩
    · rcases List.mem_cons.1 mem with same | later
      · exact same ▸ chosen.1
      · exact List.mem_cons_of_mem _ (List.mem_cons_of_mem _ later)
    · rcases List.mem_cons.1 hu with rfl | hu
      · exact Int.le_trans below chosen.2.1
      · rcases List.mem_cons.1 hu with rfl | hu
        · exact Int.le_trans below chosen.2.2
        · exact least (List.mem_cons_of_mem _ hu)

theorem isLeast_unique {P : Set Instant} {t u : Instant} (ht : IsLeast P t) (hu : IsLeast P u) :
    t = u :=
  Instant.rank_injective (Int.le_antisymm (ht.2 hu.1) (hu.2 ht.1))

/-- A search finds the first instant at which the clock shows the seconds, if all are in range. -/
theorem earliest?_eq_some_iff :
    z.earliest? seconds = some t ↔ z.InRange seconds ∧ IsLeast {u | z.Shows seconds u} t := by
  by_cases inRange : z.InRange seconds
  · have same : {u | u ∈ z.instantsOf seconds} = {u | z.Shows seconds u} :=
      Set.ext fun u => mem_instantsOf inRange
    rw [earliest?, ← same]
    rcases z.instantsOf seconds with _ | ⟨u, us⟩
    · constructor
      · intro none
        cases none
      · rintro ⟨-, shown, -⟩
        exact absurd shown List.not_mem_nil
    · have least := isLeast_foldl us u
      exact ⟨fun found => ⟨inRange, Option.some.inj found ▸ least⟩, fun found =>
        congrArg some (isLeast_unique least found.2)⟩
  · rw [earliest?, instantsOf_of_not_inRange inRange]
    constructor
    · intro none
      cases none
    · rintro ⟨within, -⟩
      exact absurd within inRange

theorem earliest?_eq_none_iff : z.earliest? seconds = none ↔ ¬z.Readable seconds := by
  rw [← not_iff_not, ← Ne, Option.ne_none_iff_exists', not_not]
  constructor
  · rintro ⟨t, found⟩
    obtain ⟨inRange, least⟩ := earliest?_eq_some_iff.1 found
    exact ⟨inRange, t, least.1⟩
  · rintro ⟨inRange, shown⟩
    obtain ⟨t, least⟩ := Instant.exists_isLeast shown
    exact ⟨t, earliest?_eq_some_iff.2 ⟨inRange, least⟩⟩

/-! ## Entering a day -/

/-- The seconds that a local clock shows at the midnight with which a day starts. -/
def midnight (date : Date) : Int := date.toDays * 86400

/-- The offset changes at `t`. -/
def ChangesAt (z : Zone) (t : Instant) : Prop := ∃ change ∈ z.changes, change.1 = t

/-- Without a change in between the offset stays. -/
theorem offsetAt_eq_of_steady {p : Instant} (onward : p ≤ t)
    (steady : ∀ change ∈ z.changes, p < change.1 → ¬change.1 ≤ t) :
    z.offsetAt p = z.offsetAt t := by
  unfold offsetAt offsetAtRank
  refine List.foldl_ext _ _ _ fun offset change hc => ?_
  have same : change.1.rank ≤ p.rank ↔ change.1.rank ≤ t.rank :=
    ⟨fun early => Int.le_trans early onward, fun early =>
      Int.not_lt.1 fun later => steady change hc later early⟩
  simp only [same]

theorem offsetAt_eq {p : Instant} (before : p < t) (just : ∀ u : Instant, u < t → u ≤ p)
    (steady : ¬z.ChangesAt t) : z.offsetAt p = z.offsetAt t := by
  refine offsetAt_eq_of_steady (Int.le_of_lt before) fun change hc later early => ?_
  have not_before : ¬change.1 < t := fun earlier => Int.not_le.2 later (just _ earlier)
  have here := Instant.rank_injective (Int.le_antisymm early (Int.not_lt.1 not_before))
  exact steady ⟨change, hc, here⟩

theorem toDays_ofDays (n : Int) : (Date.ofDays n).toDays = n := by
  have day := Month.day_ofDays n
  have start := Month.firstDay_eq (Month.ofDay n)
  simp only [Month.ofDay] at day start
  rw [Date.toDays]
  omega

theorem toDays_dateAt (z : Zone) (t : Instant) : (z.dateAt t).toDays = z.localSeconds t / 86400 :=
  toDays_ofDays _

/-- The first instant of a day shows midnight, unless the offset changes there or it is the first
of all instants. -/
theorem shows_midnight {date : Date} {f : Instant} (least : IsLeast {t | z.dateAt t = date} f)
    (later : f ≠ Instant.first) (steady : ¬z.ChangesAt f) : z.Shows (midnight date) f := by
  obtain ⟨p, before, just, place⟩ := Instant.exists_pred later
  have other : z.localSeconds p / 86400 ≠ z.localSeconds f / 86400 := by
    intro same
    have dated : z.dateAt p = date := by
      rw [dateAt, same]
      exact least.1
    exact Int.not_le.2 before (least.2 dated)
  have days := toDays_dateAt z f
  rw [show z.dateAt f = date from least.1] at days
  have offset := offsetAt_eq before just steady
  simp only [localSeconds, offset] at other days
  simp only [Shows, localSeconds, midnight, days]
  rcases place with same | ⟨whole, same⟩
  · rw [same] at other
    exact absurd rfl other
  · exact ⟨whole, by omega⟩

end Zone

namespace Calendar

open Zone

variable {z : Zone} {date : Date} {t : Instant}

theorem ofDays_firstDay (m : Month) : Date.ofDays m.firstDay = m.first := by
  have within : Month.ofDay m.firstDay = m := by
    refine Month.ofDay_eq_iff.2 ⟨Int.le_refl _, ?_⟩
    have length := daysInMonth_pos (isLeap m.year) m.month
    rw [Month.firstDay_next]
    omega
  have day := Month.day_ofDays m.firstDay
  rw [within] at day
  have year : (Date.ofDays m.firstDay).year = m.year := congrArg Month.year within
  have month : (Date.ofDays m.firstDay).month = m.month := congrArg Month.month within
  rcases dated : Date.ofDays m.firstDay with ⟨y, k, d⟩
  rw [dated] at day year month
  obtain rfl : y = m.year := year
  obtain rfl : k = m.month := month
  obtain rfl : d = 1 := by
    dsimp only at day
    omega
  rfl

/-! ## The start of a day -/

theorem dayStart_eq_ok_iff : dayStart z date = .ok t ↔
    (z.InRange (midnight date) ∧ IsLeast {u | z.Shows (midnight date) u} t) ∨
      ¬z.Readable (midnight date) ∧ z.InRange (midnight date + 3600) ∧
        IsLeast {u | z.Shows (midnight date + 3600) u} t := by
  rw [← earliest?_eq_some_iff, ← earliest?_eq_some_iff, ← earliest?_eq_none_iff, dayStart,
    ← midnight]
  rcases z.earliest? (midnight date) with _ | u
  · rcases z.earliest? (midnight date + 3600) with _ | v <;> simp
  · simp

/-- The start of a day is a whole second. -/
theorem dayStart_whole (h : dayStart z date = .ok t) : t.nanos = 0 := by
  rcases dayStart_eq_ok_iff.1 h with ⟨-, shown⟩ | ⟨-, -, shown⟩
  · exact shown.1.1
  · exact shown.1.1

theorem monthStart_whole {now : Instant} (h : monthStart z now = .ok t) : t.nanos = 0 := by
  rw [monthStart_eq] at h
  split at h
  · exact dayStart_whole h
  · cases h

theorem dayStart_eq_error_iff {e : ScheduleError} : dayStart z date = .error e ↔
    e = .noMidnight date ∧ ¬z.Readable (midnight date) ∧
      ¬z.Readable (midnight date + 3600) := by
  rw [← earliest?_eq_none_iff, ← earliest?_eq_none_iff, dayStart,
    ← midnight]
  rcases z.earliest? (midnight date) with _ | u
  · rcases z.earliest? (midnight date + 3600) with _ | v <;> simp [eq_comm]
  · simp

/-- Why the start of a day may be another than its first instant `f`: the offset changes there, or
it is the first of all instants, or midnight would also be shown outside the range of instants. -/
def Apart (z : Zone) (date : Date) (f : Instant) : Prop :=
  z.ChangesAt f ∨ f = Instant.first ∨ ¬z.InRange (midnight date)

/-- What is found as the start of a month. -/
structure Starts (z : Zone) (m : Month) (found : Except ScheduleError Instant) : Prop where
  /-- It is the first instant that shows the midnight of the first day, or one o'clock if no
  instant can be told for midnight. -/
  ok : ∀ t, found = .ok t ↔
    (z.InRange (midnight m.first) ∧ IsLeast {u | z.Shows (midnight m.first) u} t) ∨
      ¬z.Readable (midnight m.first) ∧ z.InRange (midnight m.first + 3600) ∧
        IsLeast {u | z.Shows (midnight m.first + 3600) u} t
  /-- It fails if no instant can be told for either. -/
  error : ∀ e, found = .error e ↔
    e = .noMidnight m.first ∧ ¬z.Readable (midnight m.first) ∧
      ¬z.Readable (midnight m.first + 3600)
  /-- It lies on the first day, and so not before the first instant of that day. -/
  dated : ∀ t, found = .ok t → z.dateAt t = m.first
  /-- It is the first instant of that day but for the named causes. -/
  first : ∀ f, IsLeast {t | z.dateAt t = m.first} f → found = .ok f ∨ Apart z m.first f

theorem dateAt_of_shows {m : Month} (later : Int) (hour : 0 ≤ later ∧ later < 86400)
    (shows : z.Shows (midnight m.first + later) t) : z.dateAt t = m.first := by
  have day : z.localSeconds t / 86400 = m.firstDay := by
    rw [shows.2, midnight, Month.firstDay]
    omega
  rw [Zone.dateAt, day, ofDays_firstDay]

theorem starts_dayStart (z : Zone) (m : Month) : Starts z m (dayStart z m.first) where
  ok _ := dayStart_eq_ok_iff
  error _ := dayStart_eq_error_iff
  dated t found := by
    rcases dayStart_eq_ok_iff.1 found with ⟨-, shown⟩ | ⟨-, -, shown⟩
    · refine dateAt_of_shows 0 (by decide) ?_
      rw [Int.add_zero]
      exact shown.1
    · exact dateAt_of_shows 3600 (by decide) shown.1
  first f least := by
    by_cases apart : Apart z m.first f
    · exact .inr apart
    · unfold Apart at apart
      push Not at apart
      obtain ⟨steady, later, inRange⟩ := apart
      refine .inl (dayStart_eq_ok_iff.2 (.inl ⟨inRange, shows_midnight least later steady, ?_⟩))
      intro u hu
      refine least.2 (dateAt_of_shows 0 (by decide) ?_)
      rw [Int.add_zero]
      exact hu

/-- In every zone, for every instant: the start of its local month and that of the month after it
are what a search for the start of their first days gives, unless the year has no dates. -/
theorem month_starts (z : Zone) (now : Instant) :
    (if hasYear (monthAt z now).year then Starts z (monthAt z now) (monthStart z now)
      else monthStart z now = .error (.noFirstDay (monthAt z now).year (monthAt z now).month)) ∧
    if hasYear (monthAt z now).year ∧ hasYear (monthAt z now).next.year then
      Starts z (monthAt z now).next (nextMonthStart z now)
    else
      nextMonthStart z now = .error (.noNextMonth (monthAt z now).year (monthAt z now).month) := by
  rw [monthStart_eq, nextMonthStart_eq]
  constructor
  · split
    · exact starts_dayStart z _
    · rfl
  · split
    · exact starts_dayStart z _
    · rfl

/-! ## A change that skips midnight -/

/-- A zone without offset in which clocks go forward by `gap` seconds at half past eleven on the
last evening of an April. -/
def skipsMidnight (gap : Int) : Zone := ⟨0, [({ seconds := 1714519800, nanos := 0 }, gap)]⟩

/-- A quarter of an hour after the change. -/
def afterChange : Instant := { seconds := 1714520700, nanos := 0 }

/-- Clocks that skip the hour from half past eleven show midnight nowhere, and one o'clock a
quarter of an hour after the first of May was there. So the start of a month may be another than the
first instant of its first day, and later than the instant that was asked about. And clocks that
skip two hours show neither, so there is no start although the day is there. -/
theorem monthStart_after_now :
    (¬∀ (z : Zone) (now t : Instant), z.changes.Pairwise (·.1 < ·.1) → monthStart z now = .ok t →
      IsLeast {u | z.dateAt u = (monthAt z now).first} t) ∧
    (¬∀ (z : Zone) (now t : Instant), z.changes.Pairwise (·.1 < ·.1) → monthStart z now = .ok t →
      t ≤ now) ∧
    ¬∀ (z : Zone) (now : Instant) (e : ScheduleError), z.changes.Pairwise (·.1 < ·.1) →
      monthStart z now = .error e → ∀ u, z.dateAt u ≠ (monthAt z now).first := by
  let may : Instant := { seconds := 1714521600, nanos := 0 }
  have late : ¬may ≤ afterChange := by decide
  have found : monthStart (skipsMidnight 3600) afterChange = .ok may := by decide +kernel
  have onFirst (gap : Int) (hour : gap = 3600 ∨ gap = 7200) :
      (skipsMidnight gap).dateAt afterChange = (monthAt (skipsMidnight gap) afterChange).first := by
    rcases hour with rfl | rfl <;> decide +kernel
  refine ⟨fun first => ?_, fun earlier => ?_, fun gone => ?_⟩
  · exact late ((first _ _ _ (List.pairwise_singleton _ _) found).2 (onFirst _ (.inl rfl)))
  · exact late (earlier _ _ _ (List.pairwise_singleton _ _) found)
  · have none : monthStart (skipsMidnight 7200) afterChange =
        .error (.noMidnight ⟨2024, 5, 1⟩) := by decide +kernel
    exact gone _ _ _ (List.pairwise_singleton _ _) none afterChange (onFirst _ (.inr rfl))

end Calendar

end Paymaster
