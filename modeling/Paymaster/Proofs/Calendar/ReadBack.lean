import Paymaster.Calendar.Reading
import Paymaster.Proofs.Calendar.FirstInstants
import Paymaster.Proofs.Calendar.StoredOrder
import Paymaster.Proofs.Text.Digits

/-
  Instants read back from their printed form.
  The reader takes a printed instant apart as it was put together: the year with its sign or its
  four digits, the other parts of two digits each, the fraction of three, six or nine digits, and
  the Z. Each part is found as it was written, whatever comes after it. The date is one of the
  calendar and of the years that have dates, and second 60 is the leap second again, so that the
  instant itself is found, unless it is a leap second within a minute (`readInstant?_text`).
-/

namespace Paymaster.Calendar

open Decimal

/-! ## Numbers -/

theorem not_isBlank_of_isDigit {c : Char} (h : c.isDigit) : Text.isBlank c = false := by
  obtain ⟨d, small, rfl⟩ := exists_digitChar h
  exact (show ∀ d < 10, Text.isBlank (Nat.digitChar d) = false by decide) d small

theorem skipBlanks_cons {c : Char} (h : Text.isBlank c = false) (cs : List Char) :
    Text.skipBlanks (c :: cs) = c :: cs := by
  unfold Text.skipBlanks
  rw [List.dropWhile_cons_of_neg (by rw [h]; decide)]

theorem skipBlanks_padded (w n : Nat) (rest : List Char) :
    Text.skipBlanks (padded w n ++ rest) = padded w n ++ rest := by
  obtain ⟨d, ds, first⟩ := List.exists_cons_of_ne_nil (padded_ne_nil w n)
  have digit : d.isDigit := isDigit_of_mem_padded (first ▸ List.mem_cons_self)
  rw [first]
  exact skipBlanks_cons (not_isBlank_of_isDigit digit) _

theorem number?_padded {w n : Nat} (bound : n < unit (w + 1)) (rest : List Char) :
    number? (w + 1) (padded (w + 1) n ++ rest) = some (n, rest) := by
  have length := length_padded bound
  have read : span (w + 1) (padded (w + 1) n ++ rest) = (padded (w + 1) n, rest) :=
    span_of_digits (fun c => isDigit_of_mem_padded) (Nat.le_of_eq length) (.inl length)
  have value := value_padded (w + 1) n
  obtain ⟨d, ds, first⟩ := List.exists_cons_of_ne_nil (padded_ne_nil (w + 1) n)
  unfold number?
  rw [skipBlanks_padded, read, first]
  rw [first] at value
  dsimp only
  rw [value]

theorem number?_twoPlaces {n : Nat} (bound : n < 100) (rest : List Char) :
    number? 2 (padded 2 n ++ rest) = some (n, rest) :=
  number?_padded (w := 1) bound rest

theorem mark?_cons {c : Char} (h : Text.isBlank c = false) (rest : List Char) :
    mark? c (c :: rest) = some rest := by
  unfold mark?
  rw [skipBlanks_cons h]
  exact if_pos rfl

/-! ## Dates -/

/-- A year of four digits has no sign. -/
theorem year?_unsigned {n : Nat} (bound : n < unit 4) (rest : List Char) :
    year? (padded 4 n ++ rest) = some ((n : Int), rest) := by
  have number := number?_padded (w := 3) bound rest
  have blanks := skipBlanks_padded 4 n rest
  obtain ⟨d, ds, first⟩ := List.exists_cons_of_ne_nil (padded_ne_nil 4 n)
  have digit : d.isDigit := isDigit_of_mem_padded (first ▸ List.mem_cons_self)
  unfold year?
  rw [blanks]
  rw [first, List.cons_append] at number ⊢
  split
  · rename_i same
    cases same
    cases digit
  · rename_i same
    cases same
    cases digit
  · rw [number]
    rfl

/-- A year with a sign goes on to the first character that is no digit. -/
theorem year?_signed (n : Nat) {rest : List Char} (stops : Stops rest) :
    year? ('-' :: (padded 4 n ++ rest)) = some (-(n : Int), rest) ∧
      year? ('+' :: (padded 4 n ++ rest)) = some ((n : Int), rest) := by
  have read := run_of_digits (fun c => isDigit_of_mem_padded (w := 4) (n := n)) stops
  have value := value_padded 4 n
  obtain ⟨d, ds, first⟩ := List.exists_cons_of_ne_nil (padded_ne_nil 4 n)
  rw [first] at read value ⊢
  unfold year?
  rw [skipBlanks_cons (by decide), skipBlanks_cons (by decide)]
  simp only [read, value, and_self]

theorem year?_yearChars (year : Int) {rest : List Char} (stops : Stops rest) :
    year? (yearChars year ++ rest) = some (year, rest) := by
  have fits : unit 4 = 10000 := rfl
  unfold yearChars
  split
  · have value : (year.natAbs : Int) = year := by omega
    rw [year?_unsigned (by omega), value]
  · split
    · have value : -(year.natAbs : Int) = year := by omega
      rw [List.cons_append, (year?_signed _ stops).1, value]
    · have value : (year.natAbs : Int) = year := by omega
      rw [List.cons_append, (year?_signed _ stops).2, value]

theorem date?_chars {d : Date} (valid : d.IsValid) (year : firstYear ≤ d.year ∧ d.year ≤ lastYear)
    (rest : List Char) : date? (d.chars ++ rest) = some (d, rest) := by
  have length := daysInMonth_pos (isLeap d.year) d.month
  have month : d.month < 100 := by
    have := valid.2.1
    omega
  have day : d.day < 100 := by
    have := valid.2.2.2
    omega
  have text : d.chars ++ rest = yearChars d.year ++
      ('-' :: (padded 2 d.month ++ ('-' :: (padded 2 d.day ++ rest)))) := by
    simp [Date.chars]
  unfold date?
  rw [text, year?_yearChars _ (stops_cons (by decide) _)]
  simp only [Option.bind_eq_bind, Option.bind_some, mark?_cons (c := '-') rfl,
    number?_twoPlaces month, number?_twoPlaces day]
  exact if_pos ⟨valid, year⟩

/-- The date of a day is one of the calendar. -/
theorem isValid_ofDays (n : Int) : (Date.ofDays n).IsValid := by
  have day := Month.day_ofDays n
  have spec := Month.ofDay_spec n
  have month := (Month.ofDay n).valid
  rw [Month.firstDay_next] at spec
  refine ⟨month.1, month.2, ?_, ?_⟩
  · omega
  · have length : ((Date.ofDays n).day : Int) ≤
        daysInMonth (isLeap (Month.ofDay n).year) (Month.ofDay n).month := by omega
    exact_mod_cast length

/-- Every instant lies in one of the years that have dates. -/
theorem year_bounds (t : Instant) :
    firstYear ≤ (Date.ofDays (t.seconds / 86400)).year ∧
      (Date.ofDays (t.seconds / 86400)).year ≤ lastYear := by
  have first := t.first_le
  have last := t.le_last
  obtain ⟨start, stop⟩ := yearOf_spec (t.seconds / 86400 + epochDay)
  have year : (Date.ofDays (t.seconds / 86400)).year = yearOf (t.seconds / 86400 + epochDay) := rfl
  rw [year]
  generalize yearOf (t.seconds / 86400 + epochDay) = y at start stop
  have monotone {a b : Int} (h : a ≤ b) : daysBeforeYear a ≤ daysBeforeYear b := by
    rcases Int.lt_or_eq_of_le h with earlier | same
    · have := daysBeforeYear_lt earlier
      omega
    · rw [same]
  have firstDay : daysBeforeYear firstYear = firstSecond / 86400 + epochDay := by decide
  have lastDay : daysBeforeYear (lastYear + 1) = lastSecond / 86400 + 1 + epochDay := by decide
  constructor
  · refine Int.not_lt.1 fun early => ?_
    have := monotone (show y + 1 ≤ firstYear from early)
    omega
  · refine Int.not_lt.1 fun late => ?_
    have := monotone (show lastYear + 1 ≤ y from late)
    omega

/-! ## Times of day -/

/-- A fraction of `w` places, read in units of the ninth. -/
theorem fraction?_places {w n : Nat} (fits : w + 1 ≤ 9) (bound : n < unit (w + 1))
    {rest : List Char} (stops : Stops rest) :
    fraction? ('.' :: (padded (w + 1) n ++ rest)) = some (n * unit (9 - (w + 1)), rest) := by
  have digits : ∀ c ∈ padded (w + 1) n, c.isDigit := fun c => isDigit_of_mem_padded
  have length := length_padded bound
  have read : span 9 (padded (w + 1) n ++ rest) = (padded (w + 1) n, rest) :=
    span_of_digits digits (by omega) (.inr stops)
  have nothing : run ([] ++ rest) = ([], rest) := run_of_digits (by simp) stops
  rw [List.nil_append] at nothing
  have value := value_padded (w + 1) n
  obtain ⟨d, ds, first⟩ := List.exists_cons_of_ne_nil (padded_ne_nil (w + 1) n)
  unfold fraction?
  rw [first] at read value length ⊢
  simp only [read, nothing, value, length]

theorem fraction?_fractionChars {n : Nat} (bound : n < 1000000000) {rest : List Char}
    (stops : Stops rest) (point : rest.head? ≠ some '.') :
    fraction? (Instant.fractionChars n ++ rest) = some (n, rest) := by
  unfold Instant.fractionChars
  split
  · rename_i whole
    subst whole
    unfold fraction?
    split
    · rename_i same
      rw [List.nil_append] at same
      rw [same] at point
      exact absurd rfl point
    · rfl
  split
  · have fits : n / 1000000 < unit 3 := show n / 1000000 < 1000 by omega
    have value : n / 1000000 * unit 6 = n := show n / 1000000 * 1000000 = n by omega
    rw [List.cons_append, fraction?_places (w := 2) (by decide) fits stops, value]
  split
  · have fits : n / 1000 < unit 6 := show n / 1000 < 1000000 by omega
    have value : n / 1000 * unit 3 = n := show n / 1000 * 1000 = n by omega
    rw [List.cons_append, fraction?_places (w := 5) (by decide) fits stops, value]
  · rw [List.cons_append, fraction?_places (w := 8) (by decide) bound stops]
    exact congrArg some (Prod.ext (Nat.mul_one n) rfl)

/-- A time of day is read back; its second is one of the day, and only the last of a minute may be
a leap second. -/
theorem timeOfDay?_chars {second nanos : Nat} (day : second < 86400)
    (place : nanos < 1000000000 ∨ second % 60 = 59 ∧ nanos < 2000000000) {rest : List Char}
    (stops : Stops rest) (point : rest.head? ≠ some '.') :
    timeOfDay? (padded 2 (second / 3600) ++ ':' :: (padded 2 (second / 60 % 60) ++
        ':' :: (padded 2 (second % 60 + nanos / 1000000000) ++
          (Instant.fractionChars (nanos % 1000000000) ++ rest)))) =
      some ((second, nanos), rest) := by
  unfold timeOfDay?
  have hour : second / 3600 < 24 := by omega
  have minute : second / 60 % 60 < 60 := by omega
  have last : second % 60 + nanos / 1000000000 ≤ 60 := by omega
  rw [number?_twoPlaces (by omega)]
  simp only [Option.bind_eq_bind, Option.bind_some, mark?_cons (c := ':') rfl]
  rw [number?_twoPlaces (by omega)]
  simp only [Option.bind_some, mark?_cons (c := ':') rfl]
  rw [number?_twoPlaces (by omega)]
  simp only [Option.bind_some]
  rw [fraction?_fractionChars (Nat.mod_lt _ (by decide)) stops point]
  simp only [Option.bind_some]
  rw [if_pos ⟨hour, minute, last⟩]
  split
  · refine congrArg some (Prod.ext (Prod.ext ?_ ?_) rfl)
    · show second / 3600 * 3600 + second / 60 % 60 * 60 + 59 = second
      omega
    · show nanos % 1000000000 + 1000000000 = nanos
      omega
  · refine congrArg some (Prod.ext (Prod.ext ?_ ?_) rfl)
    · show second / 3600 * 3600 + second / 60 % 60 * 60 +
        (second % 60 + nanos / 1000000000) = second
      omega
    · show nanos % 1000000000 = nanos
      omega

/-! ## Instants -/

theorem of?_self (t : Instant) : Instant.of? t.seconds t.nanos = some t :=
  dif_pos t.inRange

theorem readInstant?_text_of_isLegible {t : Instant} (legible : t.IsLegible) :
    readInstant? t.text = some t := by
  have text : t.text.toList = (Date.ofDays (t.seconds / 86400)).chars ++ 'T' ::
      (padded 2 ((t.seconds % 86400).toNat / 3600) ++
        ':' :: (padded 2 ((t.seconds % 86400).toNat / 60 % 60) ++
          ':' :: (padded 2 ((t.seconds % 86400).toNat % 60 + t.nanos / 1000000000) ++
            (Instant.fractionChars (t.nanos % 1000000000) ++ ['Z'])))) := by
    simp [Instant.text, Instant.chars]
  have day : (t.seconds % 86400).toNat < 86400 := by omega
  have place : t.nanos < 1000000000 ∨
      (t.seconds % 86400).toNat % 60 = 59 ∧ t.nanos < 2000000000 := by
    have within := t.nanos_lt
    have minute := t.isLegible_iff.1 legible
    omega
  have time := timeOfDay?_chars day place (stops_cons (c := 'Z') (by decide) []) (by decide)
  have seconds : t.seconds / 86400 * 86400 + ((t.seconds % 86400).toNat : Int) - 0 = t.seconds := by
    omega
  unfold readInstant?
  rw [text, date?_chars (isValid_ofDays _) (year_bounds t)]
  simp only [Option.bind_eq_bind, Option.bind_some]
  rw [time]
  have offset : offset? ['Z'] = some (0, []) := rfl
  simp only [Option.bind_some, offset, Zone.toDays_ofDays, seconds]
  exact of?_self t

/-- Every instant is read back from its printed form, years of any length and the leap seconds that
end a minute included; any other leap second is read as part of the second after it. -/
theorem readInstant?_text (t : Instant) : readInstant? t.text = some t.asRead := by
  rw [← t.text_asRead]
  exact readInstant?_text_of_isLegible t.isLegible_asRead

end Paymaster.Calendar
