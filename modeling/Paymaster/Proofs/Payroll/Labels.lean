import Paymaster.Proofs.Calendar.FirstInstants
import Paymaster.Proofs.Payroll.Runs
import Paymaster.Proofs.Text.Places

/-
  The label of a month.
  A label is the name of a month, a blank and the year. No two months have one name, and a name
  holds no blank; the year is known from its digits and its sign. So different months have
  different labels (`Month.label_injective`). The start of a month tells the month as well, as it
  lies on the first day (`monthStart_eq_iff`). Hence what a payroll entry is described by, and the
  start of the month that it was paid for, tell the same (`description_eq_iff`).
-/

namespace Paymaster

namespace Calendar

/-! ## Names and years -/

theorem monthName_injective : ∀ a < 13, ∀ b < 13, 1 ≤ a → 1 ≤ b → monthName a = monthName b →
    a = b := by
  decide

theorem blank_notMem_monthName : ∀ month < 13, ' ' ∉ (monthName month).toList := by
  decide

/-- The sign before a year of other than four digits is no digit. -/
theorem isDigit_sign (year : Int) : (if year < 0 then '-' else '+').isDigit = false := by
  split <;> rfl

theorem padded_ne_signed (year : Int) (n : Nat) (rest : List Char) :
    Decimal.padded 4 n ≠ (if year < 0 then '-' else '+') :: rest := by
  intro same
  apply Decimal.notMem_padded (isDigit_sign year) 4 n
  rw [same]
  exact List.mem_cons_self

theorem yearChars_injective {a b : Int} (same : yearChars a = yearChars b) : a = b := by
  unfold yearChars at same
  by_cases fourA : 0 ≤ a ∧ a ≤ 9999
  · rw [if_pos fourA] at same
    by_cases fourB : 0 ≤ b ∧ b ≤ 9999
    · rw [if_pos fourB] at same
      have digits := Decimal.padded_injective same
      omega
    · rw [if_neg fourB] at same
      exact absurd same (padded_ne_signed b _ _)
  · rw [if_neg fourA] at same
    by_cases fourB : 0 ≤ b ∧ b ≤ 9999
    · rw [if_pos fourB] at same
      exact absurd same.symm (padded_ne_signed a _ _)
    · rw [if_neg fourB] at same
      obtain ⟨signs, rest⟩ := List.cons.inj same
      have digits := Decimal.padded_injective rest
      have sides : a < 0 ↔ b < 0 := by
        split at signs <;> split at signs
        · omega
        · cases signs
        · cases signs
        · omega
      omega

theorem blank_notMem_yearChars (year : Int) : ' ' ∉ yearChars year := by
  have digits := Decimal.notMem_padded (c := ' ') rfl 4 year.natAbs
  unfold yearChars
  split
  · exact digits
  · split <;> simp [digits]

/-! ## Labels -/

/-- The name of the month and its year. -/
def Month.label (m : Month) : String :=
  monthName m.month ++ " " ++ String.ofList (yearChars m.year)

theorem monthLabel_eq (z : Zone) (t : Instant) : monthLabel z t = (monthAt z t).label := rfl

theorem Month.label_injective {a b : Month} (same : a.label = b.label) : a = b := by
  have ha := a.valid
  have hb := b.valid
  have chars := congrArg String.toList same
  simp only [label, String.toList_append, String.toList_ofList, List.append_assoc] at chars
  -- The blank after the name is the only one.
  obtain ⟨names, -, years⟩ := (List.append_cons_inj_of_notMem
    (blank_notMem_monthName a.month (by omega)) (blank_notMem_yearChars a.year)).1 chars
  have month := monthName_injective a.month (by omega) b.month (by omega) ha.1 hb.1
    (String.toList_injective names)
  have year := yearChars_injective years
  obtain ⟨yearA, monthA, _⟩ := a
  obtain ⟨yearB, monthB, _⟩ := b
  cases month
  cases year
  rfl

/-! ## Starts -/

variable {z : Zone}

/-- The start of a month lies on its first day. -/
theorem dateAt_monthStart {now start : Instant} (found : monthStart z now = .ok start) :
    z.dateAt start = (monthAt z now).first := by
  rw [monthStart_eq] at found
  split at found
  · exact (starts_dayStart z (monthAt z now)).dated start found
  · cases found

theorem monthStart_eq_iff {a b start other : Instant} (found : monthStart z a = .ok start)
    (foundOther : monthStart z b = .ok other) :
    start = other ↔ monthAt z a = monthAt z b := by
  constructor
  · intro same
    have dates : (monthAt z a).first = (monthAt z b).first := by
      rw [← dateAt_monthStart found, ← dateAt_monthStart foundOther, same]
    obtain ⟨year, month, -⟩ := Date.mk.inj dates
    exact Month.eq_of_index_eq (by rw [Month.index, Month.index, year, month])
  · intro same
    rw [monthStart_eq, same, ← monthStart_eq, foundOther] at found
    exact (Except.ok.inj found).symm

end Calendar

/-! ## Descriptions -/

namespace Payroll

variable {z : Zone} {a b : Instant} {p q : Period}

theorem label_of_containing (found : Period.containing z a = .ok p) :
    p.label = Calendar.monthLabel z a := by
  unfold Period.containing at found
  split at found
  · cases found
    rfl
  · cases found

/-- In any zone, and for years of any sign and length: the entries of two runs are described alike
just if the months that they pay for have one start. -/
theorem description_eq_iff (found : Period.containing z a = .ok p)
    (foundOther : Period.containing z b = .ok q) :
    p.description = q.description ↔ p.monthStart = q.monthStart := by
  rw [Calendar.monthStart_eq_iff (containing_ok found).2 (containing_ok foundOther).2]
  unfold Period.description
  rw [label_of_containing found, label_of_containing foundOther, Calendar.monthLabel_eq,
    Calendar.monthLabel_eq]
  constructor
  · intro same
    have chars := congrArg String.toList same
    rw [String.toList_append, String.toList_append] at chars
    have labels := String.toList_injective (List.append_cancel_left chars)
    exact Calendar.Month.label_injective labels
  · intro same
    rw [same]

/-- The ides of March in the years 44 and -44, on a clock that is behind UTC by hours, minutes and
seconds: the two months have different starts, so they are described differently. -/
theorem description_eq_iff_ides :
    let z := Zone.fixed (-17762)
    let ides : Instant := { seconds := -60772291200, nanos := 0 }
    let earlier : Instant := { seconds := -63549360000, nanos := 0 }
    ∃ p q, Period.containing z ides = .ok p ∧ Period.containing z earlier = .ok q ∧
      p.description = "Payroll March 0044" ∧ q.description ≠ p.description := by
  intro z ides earlier
  have found : Period.containing z ides =
    .ok ⟨ides, { seconds := -60773483038, nanos := 0 }, "March 0044"⟩ := by decide +kernel
  have foundOther : Period.containing z earlier =
    .ok ⟨earlier, { seconds := -63550551838, nanos := 0 }, "March -0044"⟩ := by decide +kernel
  refine ⟨_, _, found, foundOther, rfl, ?_⟩
  intro same
  have starts := (description_eq_iff foundOther found).1 same
  exact absurd starts (by decide)

end Payroll

end Paymaster
