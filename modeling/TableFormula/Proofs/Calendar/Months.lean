import TableFormula.Proofs.Calendar.Days

/-!
# Shifts by months

Months are numbered through from year zero, twelve to a year.  A shift by months adds to the number
of the month and keeps the day of the month, or takes the last one where the month is too short.

A date is known from the number of its month and its day, and dates come in the order of their
months first.  So a shift is known by two equations (`addMonths_eq_ok_iff`), and the laws of shifts
are laws of the sums of month numbers, up to the days that a short month takes away: at most three,
since every month has twenty-eight.
-/

namespace TableFormula

open Calendar

namespace Date

variable {d d' later later' : Date}

/-! ## Month numbers -/

/-- The number of a month tells its year and its place in the year. -/
lemma monthNumber_split (d : Date) :
    (d.monthNumber : Int).fdiv 12 = d.year ∧ (d.monthNumber : Int).fmod 12 + 1 = d.month := by
  obtain ⟨-, ⟨hfirst, hlast⟩, -⟩ := d.inCalendar
  rw [monthNumber, Int.fdiv_eq_ediv_of_nonneg _ (by decide),
    Int.fmod_eq_emod_of_nonneg _ (by decide)]
  omega

lemma year_month_of_monthNumber_eq (h : d.monthNumber = d'.monthNumber) :
    d.year = d'.year ∧ d.month = d'.month := by
  have hsplit := d.monthNumber_split
  have hsplit' := d'.monthNumber_split
  rw [h] at hsplit
  omega

/-- The dates of an earlier month are earlier. -/
lemma dayNumber_lt_of_monthNumber_lt (h : d.monthNumber < d'.monthNumber) :
    d.dayNumber < d'.dayNumber := by
  obtain ⟨-, ⟨hfirst, -⟩, -⟩ := d.inCalendar
  obtain ⟨-, ⟨-, hlast⟩, -⟩ := d'.inCalendar
  unfold monthNumber at h
  obtain hbefore | ⟨hsame, hmonth⟩ :
      d.year < d'.year ∨ d.year = d'.year ∧ d.month < d'.month := by
    omega
  · have hend := d.dayNumber_lt_year
    have hstart : daysBeforeYear (d.year + 1) ≤ daysBeforeYear d'.year :=
      monotone_daysBeforeYear hbefore
    rw [d'.dayNumber_eq]
    omega
  · have hend := d.dayOfYear_lt_month
    have hstart : daysBeforeMonth d.year (d.month + 1) ≤ daysBeforeMonth d.year d'.month :=
      monotone_daysBeforeMonth d.year hmonth
    have hday : d'.dayOfYear = daysBeforeMonth d.year d'.month + (d'.day - 1) := by
      rw [dayOfYear, hsame]
    rw [d.dayNumber_eq, d'.dayNumber_eq, hsame]
    omega

lemma monthNumber_le_of_dayNumber_le (h : d.dayNumber ≤ d'.dayNumber) :
    d.monthNumber ≤ d'.monthNumber := by
  by_contra hlater
  exact absurd (dayNumber_lt_of_monthNumber_lt (Nat.lt_of_not_le hlater)) (Nat.not_lt_of_le h)

/-- Two dates of one month are as far apart as their days of the month. -/
lemma dayNumber_add_day (h : d.monthNumber = d'.monthNumber) :
    d.dayNumber + d'.day = d'.dayNumber + d.day := by
  obtain ⟨hyear, hmonth⟩ := year_month_of_monthNumber_eq h
  have hday := d.inCalendar.2.2.1
  have hday' := d'.inCalendar.2.2.1
  rw [dayNumber, dayNumber, hyear, hmonth]
  omega

/-! ## Shifts -/

/-- The year of a shifted date has to lie in the calendar, and nothing else. -/
lemma exists_addMonths (d : Date) {m : Int} (hfirst : 1 ≤ (d.monthNumber + m).fdiv 12)
    (hlast : (d.monthNumber + m).fdiv 12 ≤ 9999) :
    ∃ later, d.addMonths m = .ok later ∧ (later.year : Int) = (d.monthNumber + m).fdiv 12 ∧
      (later.month : Int) = (d.monthNumber + m).fmod 12 + 1 ∧
      later.day = min d.day (monthLength later.year later.month) := by
  have hpos := Int.fmod_nonneg_of_pos (d.monthNumber + m) (show (0 : Int) < 12 by decide)
  have hlt := Int.fmod_lt_of_pos (d.monthNumber + m) (show (0 : Int) < 12 by decide)
  rw [addMonths]
  generalize (d.monthNumber + m).fdiv 12 = year at *
  generalize (d.monthNumber + m).fmod 12 = month at *
  have hlength := monthLength_pos year.toNat (month.toNat + 1)
  have hday := d.inCalendar.2.2.1
  rw [of?, dif_pos ⟨⟨by omega, by omega⟩, ⟨by omega, by omega⟩, by omega, Nat.min_le_right _ _⟩]
  exact ⟨_, rfl, Int.toNat_of_nonneg (by omega), by dsimp only; omega, rfl⟩

lemma exists_addMonths_eq_error (d : Date) {m : Int}
    (h : ¬ (1 ≤ (d.monthNumber + m).fdiv 12 ∧ (d.monthNumber + m).fdiv 12 ≤ 9999)) :
    ∃ fault, d.addMonths m = .error fault := by
  rw [addMonths]
  generalize (d.monthNumber + m).fdiv 12 = year at *
  rw [of?, dif_neg fun hdate => h ⟨by omega, by omega⟩]
  exact ⟨_, rfl⟩

/-- A shifted date is the one in the month with the sum as its number, on the same day or the last
one. -/
lemma addMonths_eq_ok_iff (d : Date) (m : Int) (later : Date) :
    d.addMonths m = .ok later ↔ (later.monthNumber : Int) = d.monthNumber + m ∧
      later.day = min d.day (monthLength later.year later.month) := by
  constructor
  · intro h
    by_cases hyear : 1 ≤ (d.monthNumber + m).fdiv 12 ∧ (d.monthNumber + m).fdiv 12 ≤ 9999
    · obtain ⟨found, hfound, hyear, hmonth, hday⟩ := d.exists_addMonths hyear.1 hyear.2
      obtain rfl : found = later := Except.ok.inj (hfound.symm.trans h)
      have hsum := Int.mul_fdiv_add_fmod (d.monthNumber + m) 12
      have hpos := found.inCalendar.2.1.1
      have hnumber : (found.monthNumber : Int) = 12 * found.year + found.month - 1 := by
        unfold monthNumber
        omega
      exact ⟨by omega, hday⟩
    · obtain ⟨fault, hfault⟩ := d.exists_addMonths_eq_error hyear
      rw [hfault] at h
      cases h
  · rintro ⟨hnumber, hday⟩
    obtain ⟨hyear, hmonth⟩ := later.monthNumber_split
    obtain ⟨⟨hfirst, hlast⟩, -⟩ := later.inCalendar
    rw [hnumber] at hyear hmonth
    obtain ⟨found, hfound, hyear', hmonth', hday'⟩ :=
      d.exists_addMonths (m := m) (by omega) (by omega)
    have hsame : found.year = later.year ∧ found.month = later.month := by omega
    rw [hsame.1, hsame.2, ← hday] at hday'
    have hself := found.of?_self
    rw [hsame.1, hsame.2, hday', later.of?_self] at hself
    rw [hfound, Option.some.inj hself]

/-- A shift depends on the number of the target month and on the day of the month. -/
lemma addMonths_congr {m n : Int} (hnumber : d.monthNumber + m = d'.monthNumber + n)
    (hday : d.day = d'.day) : d.addMonths m = d'.addMonths n := by
  rw [addMonths, addMonths, hnumber, hday]

/-! ## Laws of shifts -/

section Laws

variable {m n : Int}

lemma addMonths_mono (hle : d.dayNumber ≤ d'.dayNumber) (h : d.addMonths m = .ok later)
    (h' : d'.addMonths m = .ok later') : later.dayNumber ≤ later'.dayNumber := by
  rw [addMonths_eq_ok_iff] at h h'
  obtain hbefore | hsame := Nat.lt_or_eq_of_le (monthNumber_le_of_dayNumber_le hle)
  · exact Nat.le_of_lt (dayNumber_lt_of_monthNumber_lt (by omega))
  · have hdays := dayNumber_add_day hsame
    have htarget : later.monthNumber = later'.monthNumber := by omega
    have hlater := dayNumber_add_day htarget
    obtain ⟨hyear, hmonth⟩ := year_month_of_monthNumber_eq htarget
    rw [hyear, hmonth] at h
    omega

lemma addMonths_strictMono (hlt : m < n) (h : d.addMonths m = .ok later)
    (h' : d.addMonths n = .ok later') : later.dayNumber < later'.dayNumber := by
  rw [addMonths_eq_ok_iff] at h h'
  exact dayNumber_lt_of_monthNumber_lt (by omega)

/-- A day that every month has is kept, so that two shifts are one. -/
lemma addMonths_addMonths (hday : d.day ≤ 28) (h : d.addMonths m = .ok later) (n : Int) :
    later.addMonths n = d.addMonths (m + n) := by
  rw [addMonths_eq_ok_iff] at h
  have hlength := monthLength_ge later.year later.month
  exact addMonths_congr (by omega) (by omega)

/-- The way back leads to the month one came from, and costs the days that the other month does not
have. -/
lemma exists_addMonths_neg (h : d.addMonths m = .ok later) :
    ∃ back, later.addMonths (-m) = .ok back ∧ back.dayNumber ≤ d.dayNumber ∧
      d.dayNumber ≤ back.dayNumber + 3 := by
  rw [addMonths_eq_ok_iff] at h
  obtain ⟨hnumber, hday⟩ := h
  have hsum : (later.monthNumber : Int) + -m = d.monthNumber := by omega
  obtain ⟨hyear, -⟩ := d.monthNumber_split
  obtain ⟨⟨hfirst, hlast⟩, -, hpos, hlength⟩ := d.inCalendar
  rw [← hsum] at hyear
  obtain ⟨back, hback, -⟩ := later.exists_addMonths (m := -m) (by omega) (by omega)
  refine ⟨back, hback, ?_⟩
  rw [addMonths_eq_ok_iff] at hback
  have hsame : back.monthNumber = d.monthNumber := by omega
  have hdays := dayNumber_add_day hsame
  obtain ⟨hyear', hmonth'⟩ := year_month_of_monthNumber_eq hsame
  rw [hyear', hmonth'] at hback
  have hlong := monthLength_le d.year d.month
  have hshort := monthLength_ge later.year later.month
  omega

end Laws

/-- **Shifts by months.**  Where the year of the target month lies in the calendar, the shifted date
is the one in this month on the same day, or on the last day if the month is shorter; otherwise
there is none.  Shifts keep the order of dates, and more months lead to a later date.  On a day that
every month has, two shifts are one.  The shift back of a shifted date exists and leads to the date
one came from or to one at most three days earlier. -/
theorem addMonths_laws (d : Date) (m : Int) :
    (let target : Int := 12 * d.year + d.month - 1 + m
      if 1 ≤ target.fdiv 12 ∧ target.fdiv 12 ≤ 9999 then
        ∃ later, d.addMonths m = .ok later ∧ (later.year : Int) = target.fdiv 12 ∧
          (later.month : Int) = target.fmod 12 + 1 ∧
          later.day = min d.day (monthLength later.year later.month)
      else ∃ fault, d.addMonths m = .error fault) ∧
    (∀ d' later later' : Date, d.dayNumber ≤ d'.dayNumber → d.addMonths m = .ok later →
      d'.addMonths m = .ok later' → later.dayNumber ≤ later'.dayNumber) ∧
    (∀ (n : Int) (later later' : Date), m < n → d.addMonths m = .ok later →
      d.addMonths n = .ok later' → later.dayNumber < later'.dayNumber) ∧
    (∀ later : Date, d.day ≤ 28 → d.addMonths m = .ok later →
      ∀ n, later.addMonths n = d.addMonths (m + n)) ∧
    (∀ later : Date, d.addMonths m = .ok later → ∃ back, later.addMonths (-m) = .ok back ∧
      back.dayNumber ≤ d.dayNumber ∧ d.dayNumber ≤ back.dayNumber + 3) := by
  have htarget : 12 * (d.year : Int) + d.month - 1 + m = d.monthNumber + m := by
    have hmonth := d.inCalendar.2.1.1
    unfold monthNumber
    omega
  refine ⟨?_, fun _ _ _ => addMonths_mono, fun _ _ _ => addMonths_strictMono,
    fun _ => addMonths_addMonths, fun _ => exists_addMonths_neg⟩
  simp only [htarget]
  split_ifs with hyear
  · exact d.exists_addMonths hyear.1 hyear.2
  · exact d.exists_addMonths_eq_error hyear

/-- The last of January is shifted to the leap day of the year, and back to two days before. -/
theorem addMonths_toLeapDay : ∃ back, addMonths ⟨2024, 2, 29, by decide⟩ (-1) = .ok back ∧
    back.dayNumber ≤ dayNumber ⟨2024, 1, 31, by decide⟩ ∧
    dayNumber ⟨2024, 1, 31, by decide⟩ ≤ back.dayNumber + 3 := by
  obtain ⟨-, -, -, -, hback⟩ := addMonths_laws ⟨2024, 1, 31, by decide⟩ 1
  exact hback ⟨2024, 2, 29, by decide⟩ rfl

end Date

end TableFormula
