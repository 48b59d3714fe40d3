import Paymaster.Proofs.Text.Bytes
import Paymaster.Proofs.Calendar.MonthStarts

/-
  The order of stored instants.
  The store compares instants by their texts. A text names the year, the month, the day, the hour,
  the minute, the second and the fraction in this order, each but the last in a fixed number of
  places as long as the year has four digits. So an earlier instant has the smaller text: a date
  (`dateChars_append_lt`), a time of day (`timeChars_append_lt`) and a fraction
  (`fractionChars_append_lt`) go before all later ones, and `storedText_lt_iff` puts them together.
  A leap second within a minute has the text of an instant after it, as which it is read
  (`Instant.asRead`), and in the order of texts it lies there too (`storedText_lt_iff_asRead`).
  All characters of a text are of ASCII, so that its order is that of its bytes
  (`storedText_lt_iff_bytes_lt`).
-/

namespace Paymaster

open Calendar Decimal Text

/-- The year in UTC. -/
def Instant.year (t : Instant) : Int := (Date.ofDays (t.seconds / 86400)).year

/-- The year in UTC is one of 0 to 9999, which are written with four digits. -/
def Instant.HasPlainYear (t : Instant) : Prop := 0 ≤ t.year ∧ t.year ≤ 9999

instance (t : Instant) : Decidable t.HasPlainYear := by unfold Instant.HasPlainYear; infer_instance

/-- The text of the instant is not that of a later one: a leap second ends a minute. -/
def Instant.IsLegible (t : Instant) : Prop := t.isLeapSecond → t.seconds % 60 = 59

instance (t : Instant) : Decidable t.IsLegible := by unfold Instant.IsLegible; infer_instance

/-- The instant is the one that its text gives, in a year of four digits. -/
def Instant.HasPlainText (t : Instant) : Prop := t.HasPlainYear ∧ t.IsLegible

instance (t : Instant) : Decidable t.HasPlainText := by unfold Instant.HasPlainText; infer_instance

theorem cons_lt_cons {c : Char} {x y : List Char} (h : x < y) : c :: x < c :: y :=
  List.cons_lt_cons_iff.2 (.inr ⟨rfl, h⟩)

theorem twoPlaces_append_lt {n m : Nat} (h : n < m) (bound : m < 100) (x y : List Char) :
    padded 2 n ++ x < padded 2 m ++ y :=
  padded_append_lt (w := 1) h bound x y

/-- Texts are in the order of their first two places, and if these tie in that of what follows a
mark. -/
theorem twoPlaces_mark_lt {n m : Nat} {mark : Char} {x y : List Char} (h : n ≤ m)
    (bound : m < 100) (tie : n = m → x < y) :
    padded 2 n ++ mark :: x < padded 2 m ++ mark :: y := by
  rcases Nat.lt_or_eq_of_le h with earlier | same
  · exact twoPlaces_append_lt earlier bound _ _
  · rw [same]
    exact List.append_left_lt (cons_lt_cons (tie same))

/-! ## Dates -/

theorem day_ofDays_le (n : Int) : (Date.ofDays n).day ≤ 31 := by
  have day := Month.day_ofDays n
  have spec := (Month.ofDay_spec n).2
  have length := daysInMonth_pos (isLeap (Month.ofDay n).year) (Month.ofDay n).month
  rw [Month.firstDay_next] at spec
  omega

theorem dateChars_append_lt {n m : Int} (h : n < m) (first : 0 ≤ (Date.ofDays n).year)
    (last : (Date.ofDays m).year ≤ 9999) (x y : List Char) :
    (Date.ofDays n).chars ++ x < (Date.ofDays m).chars ++ y := by
  have inOrder := Month.index_ofDay_le (Int.le_of_lt h)
  have month := (Month.ofDay n).valid
  have month' := (Month.ofDay m).valid
  have day := Month.day_ofDays n
  have day' := Month.day_ofDays m
  have most := day_ofDays_le m
  have year : (Month.ofDay n).year = (Date.ofDays n).year := rfl
  have year' : (Month.ofDay m).year = (Date.ofDays m).year := rfl
  have name : (Month.ofDay n).month = (Date.ofDays n).month := rfl
  have name' : (Month.ofDay m).month = (Date.ofDays m).month := rfl
  simp only [Month.index, year, year', name, name'] at inOrder month month'
  have plain : 0 ≤ (Date.ofDays n).year ∧ (Date.ofDays n).year ≤ 9999 := by omega
  have plain' : 0 ≤ (Date.ofDays m).year ∧ (Date.ofDays m).year ≤ 9999 := by omega
  simp only [Date.chars, yearChars, if_pos plain, if_pos plain', List.append_assoc,
    List.cons_append]
  rcases Int.lt_or_eq_of_le (show (Date.ofDays n).year ≤ (Date.ofDays m).year by omega) with
    earlier | same
  · have bound : (Date.ofDays m).year.natAbs < 10000 := by omega
    exact padded_append_lt (w := 3) (by omega) bound _ _
  rw [same]
  refine List.append_left_lt (cons_lt_cons ?_)
  refine twoPlaces_mark_lt (by omega) (by omega) fun sameNumber => ?_
  have sameMonth : Month.ofDay n = Month.ofDay m :=
    Month.eq_of_index_eq (by simp only [Month.index, year, year', name, name']; omega)
  rw [sameMonth] at day
  exact twoPlaces_append_lt (by omega) (by omega) _ _

/-! ## Times of day -/

/-- The time of day, given the second of the day and whether a leap second is added. -/
def timeChars (second leap : Nat) : List Char :=
  padded 2 (second / 3600) ++ ':' :: padded 2 (second / 60 % 60) ++
    ':' :: padded 2 (second % 60 + leap)

/-- A leap second is added to the last second of a minute only. -/
theorem timeChars_append_lt {s s' leap leap' : Nat} (day : s' < 86400) (most : leap' ≤ 1)
    (end_of_minute : leap = 0 ∨ s % 60 = 59 ∧ leap = 1)
    (h : s < s' ∨ s = s' ∧ leap < leap') (x y : List Char) :
    timeChars s leap ++ x < timeChars s' leap' ++ y := by
  simp only [timeChars, List.append_assoc, List.cons_append]
  refine twoPlaces_mark_lt (by omega) (by omega) fun sameHour => ?_
  refine twoPlaces_mark_lt (by omega) (by omega) fun sameMinute => ?_
  exact twoPlaces_append_lt (by omega) (by omega) _ _

/-! ## Fractions -/

theorem fractionChars_cases {n : Nat} (bound : n < 1000000000) :
    n = 0 ∧ Instant.fractionChars n = [] ∨
      ∃ w a, w ≤ 9 ∧ n = a * unit (9 - w) ∧ a < unit w ∧
        Instant.fractionChars n = '.' :: places w a := by
  unfold Instant.fractionChars
  split
  · rename_i whole
    exact .inl ⟨whole, rfl⟩
  split
  · have fits : n / 1000000 < 1000 := by omega
    have value : n = n / 1000000 * 1000000 := by omega
    refine .inr ⟨3, n / 1000000, by decide, value, fits, ?_⟩
    rw [padded_eq_places (w := 2) fits]
  split
  · have fits : n / 1000 < 1000000 := by omega
    have value : n = n / 1000 * 1000 := by omega
    refine .inr ⟨6, n / 1000, by decide, value, fits, ?_⟩
    rw [padded_eq_places (w := 5) fits]
  · refine .inr ⟨9, n, by decide, (Nat.mul_one n).symm, bound, ?_⟩
    rw [padded_eq_places (w := 8) bound]

theorem fractionChars_append_lt {n m : Nat} (h : n < m) (bound : m < 1000000000) (x : List Char) :
    Instant.fractionChars n ++ '+' :: x < Instant.fractionChars m ++ '+' :: x := by
  rcases fractionChars_cases bound with ⟨none, -⟩ | ⟨w, b, hw, value', fits, text'⟩
  · omega
  rw [text']
  rcases fractionChars_cases (Nat.lt_trans h bound) with ⟨-, text⟩ | ⟨v, a, hv, value, -, text⟩ <;>
    rw [text]
  · exact List.cons_lt_cons_iff.2 (.inl (by decide))
  · rw [value, value'] at h
    exact cons_lt_cons (places_plus_lt hv hw h fits x)

/-! ## Leap seconds within a minute -/

namespace Instant

variable {t : Instant}

theorem isLegible_of_whole (whole : t.nanos = 0) : t.IsLegible := fun leap =>
  absurd leap (not_isLeapSecond_of_whole whole)

theorem isLegible_iff (t : Instant) :
    t.IsLegible ↔ t.nanos < 1000000000 ∨ t.seconds % 60 = 59 := by
  rw [IsLegible, isLeapSecond, decide_eq_true_eq]
  omega

/-- The instant that the text of `t` gives. A leap second within a minute is read as so much of the
second after it. -/
def asRead (t : Instant) : Instant :=
  if legible : t.IsLegible then t
  else
    { seconds := t.seconds + 1
      nanos := t.nanos - 1000000000
      inRange := by
        have range := t.inRange
        rw [isLegible_iff] at legible
        unfold lastSecond at range ⊢
        omega }

theorem asRead_of_isLegible (h : t.IsLegible) : t.asRead = t := dif_pos h

/-- A text gives its instant, or the instant is a leap second within a minute. -/
theorem asRead_cases (t : Instant) : t.IsLegible ∧ t.asRead = t ∨
    1000000000 ≤ t.nanos ∧ t.seconds % 60 ≠ 59 ∧
      t.asRead.seconds = t.seconds + 1 ∧ t.asRead.nanos = t.nanos - 1000000000 := by
  by_cases legible : t.IsLegible
  · exact .inl ⟨legible, asRead_of_isLegible legible⟩
  · have place := legible
    rw [isLegible_iff] at place
    refine .inr ⟨by omega, by omega, ?_, ?_⟩
    · rw [asRead, dif_neg legible]
    · rw [asRead, dif_neg legible]

theorem isLegible_asRead (t : Instant) : t.asRead.IsLegible := by
  rcases asRead_cases t with ⟨legible, same⟩ | ⟨-, -, -, nanos⟩
  · rwa [same]
  · have within := t.nanos_lt
    rw [isLegible_iff]
    omega

theorem asRead_eq_iff : t.asRead = t ↔ t.IsLegible := by
  constructor
  · intro same
    rw [← same]
    exact isLegible_asRead t
  · exact asRead_of_isLegible

/-- A text does not tell a leap second within a minute from the second after it. -/
theorem chars_asRead (t : Instant) : t.asRead.chars = t.chars := by
  rcases asRead_cases t with ⟨-, same⟩ | ⟨leap, inner, seconds, nanos⟩
  · rw [same]
  · have within := t.nanos_lt
    have day : (t.seconds + 1) / 86400 = t.seconds / 86400 := by omega
    have hour : ((t.seconds + 1) % 86400).toNat / 3600 = (t.seconds % 86400).toNat / 3600 := by
      omega
    have minute : ((t.seconds + 1) % 86400).toNat / 60 % 60 =
        (t.seconds % 86400).toNat / 60 % 60 := by omega
    have second : ((t.seconds + 1) % 86400).toNat % 60 + (t.nanos - 1000000000) / 1000000000 =
        (t.seconds % 86400).toNat % 60 + t.nanos / 1000000000 := by omega
    have fraction : (t.nanos - 1000000000) % 1000000000 = t.nanos % 1000000000 := by omega
    simp only [chars, seconds, nanos, day, hour, minute, second, fraction]

theorem storedText_asRead (t : Instant) : t.asRead.storedText = t.storedText := by
  rw [storedText, storedText, chars_asRead]

theorem text_asRead (t : Instant) : t.asRead.text = t.text := by
  rw [text, text, chars_asRead]

theorem hasPlainText_asRead (h : t.HasPlainYear) : t.asRead.HasPlainText := by
  refine ⟨?_, isLegible_asRead t⟩
  rcases asRead_cases t with ⟨-, same⟩ | ⟨-, inner, seconds, -⟩
  · rwa [same]
  · have day : (t.seconds + 1) / 86400 = t.seconds / 86400 := by omega
    rw [HasPlainYear, year, seconds, day]
    exact h

end Instant

/-! ## Instants -/

theorem storedText_toList (t : Instant) :
    t.storedText.toList = (Date.ofDays (t.seconds / 86400)).chars ++ 'T' ::
      (timeChars (t.seconds % 86400).toNat (t.nanos / 1000000000) ++
        (Instant.fractionChars (t.nanos % 1000000000) ++ '+' :: "00:00".toList)) := by
  simp [Instant.storedText, Instant.chars, timeChars, List.append_assoc]

theorem storedText_lt {t u : Instant} (ht : t.HasPlainText) (hu : u.HasPlainText) (h : t < u) :
    t.storedText < u.storedText := by
  show t.storedText.toList < u.storedText.toList
  have h : t.rank < u.rank := h
  simp only [Instant.rank, Instant.rankOf] at h
  have bound := t.nanos_lt
  have bound' := u.nanos_lt
  rw [storedText_toList, storedText_toList]
  rcases Int.lt_or_eq_of_le (show t.seconds / 86400 ≤ u.seconds / 86400 by omega) with
    earlier | same
  · exact dateChars_append_lt earlier ht.1.1 hu.1.2 _ _
  rw [same]
  refine List.append_left_lt (cons_lt_cons ?_)
  have place := t.isLegible_iff.1 ht.2
  have leap : t.nanos / 1000000000 = 0 ∨
      (t.seconds % 86400).toNat % 60 = 59 ∧ t.nanos / 1000000000 = 1 := by omega
  by_cases clock : t.seconds < u.seconds ∨ t.nanos / 1000000000 < u.nanos / 1000000000
  · exact timeChars_append_lt (by omega) (by omega) leap (by omega) _ _
  · have second : t.seconds = u.seconds := by omega
    have leaps : t.nanos / 1000000000 = u.nanos / 1000000000 := by omega
    rw [second, leaps]
    refine List.append_left_lt ?_
    exact fractionChars_append_lt (by omega) (by omega) _

/-- In years of four digits the store compares instants as they lie in time, but for leap seconds
within a minute. -/
theorem storedText_lt_iff {t u : Instant} (ht : t.HasPlainText) (hu : u.HasPlainText) :
    t.storedText < u.storedText ↔ t < u := by
  constructor
  · intro smaller
    have order : t.rank < u.rank ∨ t = u ∨ u.rank < t.rank := by
      rcases Int.lt_trichotomy t.rank u.rank with before | same | after
      · exact .inl before
      · exact .inr (.inl (Instant.rank_injective same))
      · exact .inr (.inr after)
    rcases order with before | rfl | after
    · exact before
    · exact absurd smaller (String.lt_irrefl _)
    · exact absurd smaller (String.lt_asymm (storedText_lt hu ht after))
  · exact storedText_lt ht hu

/-- In years of four digits the store compares all instants as they are read from their texts. -/
theorem storedText_lt_iff_asRead {t u : Instant} (ht : t.HasPlainYear) (hu : u.HasPlainYear) :
    t.storedText < u.storedText ↔ t.asRead < u.asRead := by
  rw [← t.storedText_asRead, ← u.storedText_asRead]
  exact storedText_lt_iff (Instant.hasPlainText_asRead ht) (Instant.hasPlainText_asRead hu)

/-- In years of four digits the store tells what lies before a whole second, but for a leap second
within a minute that ends there. -/
theorem storedText_lt_iff_of_whole {t start : Instant} (ht : t.HasPlainYear)
    (hstart : start.HasPlainYear) (whole : start.nanos = 0)
    (clear : t.IsLegible ∨ t.seconds + 1 ≠ start.seconds) :
    t.storedText < start.storedText ↔ t < start := by
  rw [storedText_lt_iff_asRead ht hstart,
    Instant.asRead_of_isLegible (Instant.isLegible_of_whole whole),
    lt_iff_of_nanos_eq_zero whole, lt_iff_of_nanos_eq_zero whole]
  rcases Instant.asRead_cases t with ⟨-, same⟩ | ⟨leap, inner, seconds, -⟩
  · rw [same]
  · rw [Instant.isLegible_iff] at clear
    omega

/-! ## Bytes -/

theorem isAscii_date (d : Date) : IsAscii d.chars := by
  have year : IsAscii (yearChars d.year) := by
    unfold yearChars
    split
    · exact isAscii_padded _ _
    · refine .cons ?_ (isAscii_padded _ _)
      split <;> decide
  exact (year.append (.cons (by decide) (isAscii_padded _ _))).append
    (.cons (by decide) (isAscii_padded _ _))

theorem isAscii_fraction (n : Nat) : IsAscii (Instant.fractionChars n) := by
  unfold Instant.fractionChars
  split
  · exact fun _ none => nomatch none
  split
  · exact .cons (by decide) (isAscii_padded _ _)
  split
  · exact .cons (by decide) (isAscii_padded _ _)
  · exact .cons (by decide) (isAscii_padded _ _)

theorem isAscii_storedText (t : Instant) : IsAscii t.storedText.toList := by
  have time (second leap : Nat) : IsAscii (timeChars second leap) :=
    ((isAscii_padded _ _).append (.cons (by decide) (isAscii_padded _ _))).append
      (.cons (by decide) (isAscii_padded _ _))
  have utc : IsAscii ('+' :: "00:00".toList) := by simp [IsAscii]
  rw [storedText_toList]
  exact (isAscii_date _).append (.cons (by decide) ((time _ _).append
    ((isAscii_fraction _).append utc)))

/-- Whatever the years, the texts of instants are ordered as their bytes. -/
theorem storedText_lt_iff_bytes_lt (t u : Instant) :
    t.storedText < u.storedText ↔ bytes t.storedText < bytes u.storedText :=
  (bytes_lt_iff (isAscii_storedText t) (isAscii_storedText u)).symm

end Paymaster
