import Paymaster.Calendar.Month

/-
  Months as intervals of days.
  Years and months follow each other without a gap: `yearOf` finds the year that holds a day and
  `monthOf` the month within it. So the month of a day is the only one that starts on or before it
  and whose successor starts after it (`Month.ofDay_eq_iff`). Months are numbered by
  `Month.index`, twelve to a year, and their first days rise with that number.
-/

namespace Paymaster.Calendar

/-! ## Years -/

theorem daysBeforeYear_succ (year : Int) :
    daysBeforeYear (year + 1) = daysBeforeYear year + if isLeap year then 366 else 365 := by
  have leap : isLeap year = true ↔ year % 4 = 0 ∧ (year % 100 ≠ 0 ∨ year % 400 = 0) := by
    simp [isLeap]
  unfold daysBeforeYear
  split
  · rename_i h
    rw [leap] at h
    omega
  · rename_i h
    rw [leap] at h
    omega

theorem daysBeforeYear_lt {year later : Int} (h : year < later) :
    daysBeforeYear year + 365 ≤ daysBeforeYear later := by
  unfold daysBeforeYear
  omega

/-- The estimate is at most one year off, so `yearOf` finds the year. -/
theorem yearOf_spec (n : Int) :
    daysBeforeYear (yearOf n) ≤ n ∧ n < daysBeforeYear (yearOf n + 1) := by
  have lower : 146097 * (400 * n / 146097) ≤ 400 * n := by omega
  have upper : 400 * n < 146097 * (400 * n / 146097) + 146097 := by omega
  simp only [yearOf]
  generalize 400 * n / 146097 = estimate at lower upper
  split
  · rename_i early
    rw [Int.sub_add_cancel]
    refine ⟨?_, early⟩
    unfold daysBeforeYear
    omega
  split
  · rename_i late
    refine ⟨late, ?_⟩
    unfold daysBeforeYear
    omega
  · rename_i notEarly notLate
    exact ⟨by omega, by omega⟩

/-! ## Months within a year -/

def daysInYear (leap : Bool) : Nat := if leap then 366 else 365

theorem monthOf_spec : ∀ leap : Bool, ∀ n < daysInYear leap,
    (1 ≤ monthOf leap n ∧ monthOf leap n ≤ 12) ∧ daysBeforeMonth leap (monthOf leap n) ≤ n ∧
      n < daysBeforeMonth leap (monthOf leap n) + daysInMonth leap (monthOf leap n) := by
  decide +kernel

theorem daysBeforeMonth_add_le : ∀ leap : Bool, ∀ month < 13, ∀ later < 13, 1 ≤ month →
    month < later →
      daysBeforeMonth leap month + daysInMonth leap month ≤ daysBeforeMonth leap later := by
  decide

theorem daysBeforeMonth_succ : ∀ leap : Bool, ∀ month < 12, 1 ≤ month →
    daysBeforeMonth leap (month + 1) = daysBeforeMonth leap month + daysInMonth leap month := by
  decide

theorem daysBeforeMonth_add_le_year : ∀ leap : Bool, ∀ month < 13, 1 ≤ month →
    daysBeforeMonth leap month + daysInMonth leap month ≤ daysInYear leap := by
  decide

theorem daysInMonth_pos (leap : Bool) (month : Nat) :
    28 ≤ daysInMonth leap month ∧ daysInMonth leap month ≤ 31 := by
  unfold daysInMonth
  split
  · split <;> decide
  · decide
  · decide
  · decide
  · decide
  · decide

/-! ## Months -/

/-- A month of a year. -/
structure Month where
  year : Int
  month : Nat
  valid : 1 ≤ month ∧ month ≤ 12 := by decide
deriving DecidableEq, Repr

namespace Month

def first (m : Month) : Date := ⟨m.year, m.month, 1⟩

/-- The days from 1970-01-01 to the first of the month. -/
def firstDay (m : Month) : Int := m.first.toDays

/-- Months are numbered through, twelve to a year. -/
def index (m : Month) : Int := 12 * m.year + (m.month - 1)

def next (m : Month) : Month :=
  if h : m.month = 12 then ⟨m.year + 1, 1, by decide⟩
  else ⟨m.year, m.month + 1, by have := m.valid; omega⟩

theorem index_next (m : Month) : m.next.index = m.index + 1 := by
  unfold next
  split
  · rename_i december
    simp only [index, december]
    omega
  · simp only [index]
    omega

theorem eq_of_index_eq {a b : Month} (h : a.index = b.index) : a = b := by
  obtain ⟨year, month, valid⟩ := a
  obtain ⟨year', month', valid'⟩ := b
  simp only [index] at h
  obtain rfl : year = year' := by omega
  obtain rfl : month = month' := by omega
  rfl

theorem firstOfNextMonth_eq (m : Month) (day : Nat) :
    firstOfNextMonth ⟨m.year, m.month, day⟩ = m.next.first := by
  unfold firstOfNextMonth next
  split <;> rfl

theorem firstDay_eq (m : Month) : m.firstDay =
    daysBeforeYear m.year - epochDay + daysBeforeMonth (isLeap m.year) m.month := by
  simp [firstDay, first, Date.toDays]

theorem firstDay_next (m : Month) :
    m.next.firstDay = m.firstDay + daysInMonth (isLeap m.year) m.month := by
  rw [firstDay_eq, firstDay_eq]
  unfold next
  split
  · rename_i december
    have january (leap : Bool) : daysBeforeMonth leap 1 = 0 := rfl
    have year := daysBeforeYear_succ m.year
    have whole : ∀ leap : Bool, daysBeforeMonth leap 12 + daysInMonth leap 12 =
        if leap then 366 else 365 := by decide
    have := whole (isLeap m.year)
    simp only [december, january]
    split at year <;> simp_all <;> omega
  · have := daysBeforeMonth_succ (isLeap m.year) m.month (by have := m.valid; omega) m.valid.1
    simp only [this]
    omega

/-- A later month starts after an earlier one has ended. -/
theorem firstDay_next_le {a b : Month} (h : a.index < b.index) :
    a.next.firstDay ≤ b.firstDay := by
  rw [firstDay_next, firstDay_eq, firstDay_eq]
  have ha := a.valid
  have hb := b.valid
  simp only [index] at h
  rcases Int.lt_or_eq_of_le (show a.year ≤ b.year by omega) with earlier | same
  · have within := daysBeforeMonth_add_le_year (isLeap a.year) a.month (by omega) ha.1
    have whole := daysBeforeYear_succ a.year
    have years : daysBeforeYear (a.year + 1) ≤ daysBeforeYear b.year := by
      rcases Int.lt_or_eq_of_le (show a.year + 1 ≤ b.year by omega) with before | same
      · have := daysBeforeYear_lt before
        omega
      · exact Int.le_of_eq (congrArg daysBeforeYear same)
    unfold daysInYear at within
    split at whole <;> simp_all <;> omega
  · have := daysBeforeMonth_add_le (isLeap b.year) a.month (by omega) b.month (by omega) ha.1
      (by omega)
    rw [same]
    omega

theorem dayOfYear_lt (n : Int) :
    (n + epochDay - daysBeforeYear (yearOf (n + epochDay))).toNat <
      daysInYear (isLeap (yearOf (n + epochDay))) := by
  have spec := yearOf_spec (n + epochDay)
  have whole := daysBeforeYear_succ (yearOf (n + epochDay))
  unfold daysInYear
  split <;> simp_all <;> omega

/-- The month that holds a day. -/
def ofDay (n : Int) : Month where
  year := (Date.ofDays n).year
  month := (Date.ofDays n).month
  valid := (monthOf_spec _ _ (dayOfYear_lt n)).1

theorem ofDay_spec (n : Int) : (ofDay n).firstDay ≤ n ∧ n < (ofDay n).next.firstDay := by
  have inYear := yearOf_spec (n + epochDay)
  have inMonth := (monthOf_spec _ _ (dayOfYear_lt n)).2
  rw [firstDay_next, firstDay_eq]
  simp only [ofDay, Date.ofDays]
  omega

theorem ofDay_eq_iff {n : Int} {m : Month} :
    ofDay n = m ↔ m.firstDay ≤ n ∧ n < m.next.firstDay := by
  constructor
  · rintro rfl
    exact ofDay_spec n
  · intro ⟨start, stop⟩
    have spec := ofDay_spec n
    apply eq_of_index_eq
    rcases Int.lt_trichotomy (ofDay n).index m.index with earlier | same | later
    · have := firstDay_next_le earlier
      omega
    · exact same
    · have := firstDay_next_le later
      omega

theorem index_ofDay_le {n later : Int} (h : n ≤ later) : (ofDay n).index ≤ (ofDay later).index := by
  have spec := ofDay_spec n
  have spec' := ofDay_spec later
  refine Int.not_lt.1 fun earlier => ?_
  have := firstDay_next_le earlier
  omega

/-- Within its month a day is counted from the first. -/
theorem day_ofDays (n : Int) : ((Date.ofDays n).day : Int) = n - (ofDay n).firstDay + 1 := by
  have inYear := yearOf_spec (n + epochDay)
  have inMonth := (monthOf_spec _ _ (dayOfYear_lt n)).2
  rw [firstDay_eq]
  simp only [ofDay, Date.ofDays]
  omega

end Month

end Paymaster.Calendar
