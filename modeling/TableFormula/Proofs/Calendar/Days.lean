import Mathlib.Order.Monotone.Basic
import Mathlib.Tactic.Common
import TableFormula.Calendar.Moment

/-!
# The days of the calendar

A day number is found in two steps: the year by its mean length, which is off by at most one, and
the month by going on from January.  Both steps find the place they look for, so the calendar
reaches every number of a day that it has, and a moment leaves it exactly where its instant does.

A number has one date only, because the years and the months of a year follow one another without a
gap.  So dates are found again from their numbers, and moments from their instants.
-/

namespace TableFormula

open Calendar

namespace Calendar

/-! ## Years -/

lemma daysBeforeMonth_succ (year : Nat) {month : Nat} (h : 1 ≤ month) :
    daysBeforeMonth year (month + 1) = daysBeforeMonth year month + monthLength year month := by
  obtain ⟨before, rfl⟩ := Nat.exists_eq_add_of_le' h
  rfl

lemma daysBeforeMonth_end (year : Nat) :
    daysBeforeMonth year 13 = if isLeapYear year then 366 else 365 := by
  cases hleap : isLeapYear year <;> simp [daysBeforeMonth, monthLength, hleap]

lemma isLeapYear_iff (year : Nat) :
    isLeapYear year = true ↔ 4 ∣ year ∧ (¬ 100 ∣ year ∨ 400 ∣ year) := by
  simp [isLeapYear, Nat.dvd_iff_mod_eq_zero]

/-- A year has the days of its twelve months. -/
lemma daysBeforeYear_succ {year : Nat} (h : 1 ≤ year) :
    daysBeforeYear (year + 1) = daysBeforeYear year + daysBeforeMonth year 13 := by
  obtain ⟨before, rfl⟩ := Nat.exists_eq_add_of_le' h
  have hcentury : before / 100 ≤ before / 4 := Nat.div_le_div_left (by decide) (by decide)
  have h₁ : 400 ∣ before + 1 → 100 ∣ before + 1 := Nat.dvd_trans (by decide)
  have h₂ : 100 ∣ before + 1 → 4 ∣ before + 1 := Nat.dvd_trans (by decide)
  rw [daysBeforeMonth_end]
  simp only [daysBeforeYear, isLeapYear_iff, Nat.add_sub_cancel, Nat.succ_div]
  -- the three divisors divide one another, so only four of the eight cases are there
  by_cases h₄ : 4 ∣ before + 1 <;> by_cases h₁₀₀ : 100 ∣ before + 1 <;>
    by_cases h₄₀₀ : 400 ∣ before + 1 <;> simp only [h₄, h₁₀₀, h₄₀₀, if_true, if_false, not_true,
      not_false_iff, and_true, and_false, or_true, or_false] <;> grind

/-- The days before a year, up to the part of a day by which its mean length is off. -/
lemma daysBeforeYear_bounds (before : Nat) :
    146097 * before ≤ 400 * daysBeforeYear (before + 1) + 600 ∧
      400 * daysBeforeYear (before + 1) ≤ 146097 * before + 400 := by
  unfold daysBeforeYear
  omega

/-- The year of a day is the one that it falls in. -/
lemma yearOfDay_spec {n : Nat} (h : n < dayCount) :
    (1 ≤ yearOfDay n ∧ yearOfDay n ≤ 9999) ∧
      daysBeforeYear (yearOfDay n) ≤ n ∧ n < daysBeforeYear (yearOfDay n + 1) := by
  have hend : n < 3652059 := h
  have hguess := Nat.div_add_mod (n * 400) 146097
  have hrest := Nat.mod_lt (n * 400) (show 0 < 146097 by decide)
  rw [yearOfDay]
  generalize n * 400 / 146097 = g at hguess ⊢
  have hnext := daysBeforeYear_bounds (g + 1)
  have hlast := daysBeforeYear_bounds (g + 1 + 1)
  have hfirst : daysBeforeYear (0 + 1) = 0 := by decide
  split_ifs with hlater hearlier
  · exact ⟨by omega, hlater, by omega⟩
  · obtain _ | before := g
    · omega
    · have hbefore := daysBeforeYear_bounds before
      exact ⟨by omega, by simp only [Nat.add_sub_cancel]; omega, by simpa using hearlier⟩
  · have hhere := daysBeforeYear_bounds g
    exact ⟨by omega, by omega, by omega⟩

/-! ## Months -/

/-- Going on from a month finds the month that a day falls in, and its place there. -/
lemma monthOfDay_spec (year : Nat) : ∀ more month rest : Nat, 1 ≤ month →
    daysBeforeMonth year month + rest < daysBeforeMonth year (month + more + 1) →
      (month ≤ (monthOfDay year month more rest).1 ∧
        (monthOfDay year month more rest).1 ≤ month + more) ∧
      (monthOfDay year month more rest).2 < monthLength year (monthOfDay year month more rest).1 ∧
      daysBeforeMonth year (monthOfDay year month more rest).1 +
        (monthOfDay year month more rest).2 = daysBeforeMonth year month + rest := by
  intro more
  induction more with
  | zero =>
    intro month rest hmonth hrest
    rw [Nat.add_zero, daysBeforeMonth_succ year hmonth] at hrest
    exact ⟨⟨Nat.le_refl _, Nat.le_refl _⟩, Nat.lt_of_add_lt_add_left hrest, rfl⟩
  | succ more ih =>
    intro month rest hmonth hrest
    rw [monthOfDay]
    split_ifs with hhere
    · exact ⟨⟨Nat.le_refl _, by omega⟩, hhere, rfl⟩
    · have hnext := daysBeforeMonth_succ year hmonth
      have hfits : month + 1 + more + 1 = month + (more + 1) + 1 := by omega
      obtain ⟨⟨hle, hmore⟩, hlt, hsum⟩ :=
        ih (month + 1) (rest - monthLength year month) (by omega) (by rw [hfits]; omega)
      exact ⟨⟨by omega, by omega⟩, hlt, by omega⟩

/-! ## One place -/

lemma monotone_daysBeforeYear : Monotone daysBeforeYear := by
  refine monotone_nat_of_le_succ fun year => ?_
  unfold daysBeforeYear
  omega

lemma monotone_daysBeforeMonth (year : Nat) : Monotone (daysBeforeMonth year) := by
  refine monotone_nat_of_le_succ fun month => ?_
  obtain _ | before := month
  · exact Nat.le_refl 0
  · exact Nat.le_add_right _ _

/-- A number lies in one place only of places that follow one another. -/
lemma eq_of_lies_between {f : Nat → Nat} (hf : Monotone f) {a b n : Nat} (ha : f a ≤ n)
    (ha' : n < f (a + 1)) (hb : f b ≤ n) (hb' : n < f (b + 1)) : a = b := by
  obtain hlt | heq | hlt := Nat.lt_trichotomy a b
  · have hle : f (a + 1) ≤ f b := hf hlt
    omega
  · exact heq
  · have hle : f (b + 1) ≤ f a := hf hlt
    omega

end Calendar

/-! ## Days -/

namespace Date

/-- The days of the year before a date. -/
def dayOfYear (d : Date) : Nat :=
  daysBeforeMonth d.year d.month + (d.day - 1)

lemma dayNumber_eq (d : Date) : d.dayNumber = daysBeforeYear d.year + d.dayOfYear :=
  Nat.add_assoc _ _ _

lemma dayOfYear_lt_month (d : Date) : d.dayOfYear < daysBeforeMonth d.year (d.month + 1) := by
  obtain ⟨-, ⟨hmonth, -⟩, hday, hlength⟩ := d.inCalendar
  rw [daysBeforeMonth_succ d.year hmonth, dayOfYear]
  omega

lemma dayNumber_lt_year (d : Date) : d.dayNumber < daysBeforeYear (d.year + 1) := by
  obtain ⟨⟨hyear, -⟩, ⟨-, hmonth⟩, -⟩ := d.inCalendar
  have hday := d.dayOfYear_lt_month
  have hend : daysBeforeMonth d.year (d.month + 1) ≤ daysBeforeMonth d.year 13 :=
    monotone_daysBeforeMonth d.year (Nat.succ_le_succ hmonth)
  rw [daysBeforeYear_succ hyear, dayNumber_eq]
  omega

lemma dayNumber_lt (d : Date) : d.dayNumber < dayCount := by
  have hyear := d.dayNumber_lt_year
  have hend : daysBeforeYear (d.year + 1) ≤ daysBeforeYear 10000 :=
    monotone_daysBeforeYear (Nat.succ_le_succ d.inCalendar.1.2)
  exact Nat.lt_of_lt_of_le hyear hend

/-- Different dates have different numbers. -/
lemma eq_of_dayNumber_eq {d d' : Date} (h : d.dayNumber = d'.dayNumber) : d = d' := by
  have hyear : d.year = d'.year := by
    refine eq_of_lies_between monotone_daysBeforeYear ?_ d.dayNumber_lt_year ?_ ?_
    · exact d.dayNumber_eq ▸ Nat.le_add_right _ _
    · exact h ▸ d'.dayNumber_eq ▸ Nat.le_add_right _ _
    · exact h ▸ d'.dayNumber_lt_year
  have hrest : d.dayOfYear = d'.dayOfYear := by
    rw [dayNumber_eq, dayNumber_eq, hyear] at h
    exact Nat.add_left_cancel h
  have hmonth : d.month = d'.month := by
    refine eq_of_lies_between (monotone_daysBeforeMonth d.year) (Nat.le_add_right _ _)
      d.dayOfYear_lt_month ?_ ?_
    · rw [← dayOfYear, hrest, hyear]
      exact Nat.le_add_right _ _
    · rw [← dayOfYear, hrest, hyear]
      exact d'.dayOfYear_lt_month
  have hday : d.day = d'.day := by
    have hpos := d.inCalendar.2.2.1
    have hpos' := d'.inCalendar.2.2.1
    rw [dayOfYear, dayOfYear, hyear, hmonth] at hrest
    omega
  have hself := d.of?_self
  rw [hyear, hmonth, hday, d'.of?_self] at hself
  exact (Option.some.inj hself).symm

/-- Every day number of the calendar is the number of a date. -/
lemma exists_ofDayNumber? {n : Nat} (h : n < dayCount) :
    ∃ d, ofDayNumber? n = some d ∧ d.dayNumber = n := by
  obtain ⟨hyear, hle, hlt⟩ := yearOfDay_spec h
  rw [daysBeforeYear_succ hyear.1] at hlt
  have hfirst : daysBeforeMonth (yearOfDay n) 1 = 0 := rfl
  have hfits : daysBeforeMonth (yearOfDay n) 1 + (n - daysBeforeYear (yearOfDay n)) <
      daysBeforeMonth (yearOfDay n) (1 + 11 + 1) := by
    rw [hfirst, Nat.zero_add]
    exact Nat.sub_lt_left_of_lt_add hle hlt
  obtain ⟨hmonth, hday, hsum⟩ := monthOfDay_spec (yearOfDay n) 11 1 _ (Nat.le_refl 1) hfits
  have hrange : (0 : Int) ≤ n ∧ (n : Int) < dayCount := by omega
  rw [ofDayNumber?, if_pos hrange, Int.toNat_natCast]
  obtain ⟨⟨month, before⟩, hplace⟩ : ∃ place,
      monthOfDay (yearOfDay n) 1 11 (n - daysBeforeYear (yearOfDay n)) = place := ⟨_, rfl⟩
  rw [hplace] at hmonth hday hsum
  simp only [hplace]
  rw [of?, dif_pos ⟨hyear, hmonth, Nat.le_add_left 1 before, hday⟩]
  refine ⟨_, rfl, ?_⟩
  show daysBeforeYear (yearOfDay n) + daysBeforeMonth (yearOfDay n) month + before = n
  rw [hfirst, Nat.zero_add] at hsum
  rw [Nat.add_assoc, hsum]
  exact Nat.add_sub_cancel' hle

/-- A date is found again from its number. -/
lemma ofDayNumber?_dayNumber (d : Date) : ofDayNumber? d.dayNumber = some d := by
  obtain ⟨found, hfound, hnumber⟩ := exists_ofDayNumber? d.dayNumber_lt
  rw [hfound, eq_of_dayNumber_eq hnumber]

/-- The calendar reaches exactly the day numbers that it has. -/
lemma ofDayNumber?_eq_none_iff (n : Int) :
    ofDayNumber? n = none ↔ ¬ (0 ≤ n ∧ n < dayCount) := by
  constructor
  · rintro hnone ⟨hpos, hlt⟩
    obtain ⟨m, rfl⟩ := Int.eq_ofNat_of_zero_le hpos
    obtain ⟨d, hsome, -⟩ := exists_ofDayNumber? (Int.ofNat_lt.mp hlt)
    rw [hnone] at hsome
    cases hsome
  · intro hout
    rw [ofDayNumber?, if_neg hout]

/-- The date that is found for a number has that number. -/
lemma dayNumber_of_ofDayNumber? {n : Int} {d : Date} (h : ofDayNumber? n = some d) :
    (d.dayNumber : Int) = n := by
  have hsome : ofDayNumber? n ≠ none := by
    rw [h]
    exact Option.some_ne_none d
  rw [ne_eq, ofDayNumber?_eq_none_iff, not_not] at hsome
  obtain ⟨hpos, hlt⟩ := hsome
  obtain ⟨m, rfl⟩ := Int.eq_ofNat_of_zero_le hpos
  obtain ⟨found, hfound, hnumber⟩ := exists_ofDayNumber? (Int.ofNat_lt.mp hlt)
  rw [h] at hfound
  cases hfound
  exact congrArg Int.ofNat hnumber

end Date

/-! ## Moments -/

/-- The microseconds of the calendar. -/
def microCount : Nat := dayCount * microsPerDay

lemma fdiv_microsPerDay (n : Int) : n.fdiv microsPerDay = n / microsPerDay :=
  Int.fdiv_eq_ediv_of_nonneg n (Int.natCast_nonneg _)

lemma Moment.instant_lt (m : Moment) : m.instant < microCount := by
  have hday := m.date.dayNumber_lt
  have hmicros := m.micros_lt
  unfold instant microCount dayCount microsPerDay at *
  omega

/-- A moment is found again from its instant. -/
lemma Moment.ofInstant?_instant (m : Moment) : ofInstant? m.instant = some m := by
  have hlt := m.micros_lt
  have hday : (m.instant : Int) / microsPerDay = m.date.dayNumber := by
    unfold instant microsPerDay at *
    omega
  have hrest : ((m.instant : Int) % microsPerDay).toNat = m.micros := by
    unfold instant microsPerDay at *
    omega
  simp only [ofInstant?, fdiv_microsPerDay, hday, Date.ofDayNumber?_dayNumber, Option.map_some,
    hrest]

/-- The moment that is found for an instant has that instant. -/
lemma Moment.instant_of_ofInstant? {n : Int} {m : Moment} (h : ofInstant? n = some m) :
    (m.instant : Int) = n := by
  rw [ofInstant?, fdiv_microsPerDay] at h
  obtain ⟨d, hd, rfl⟩ := Option.map_eq_some_iff.mp h
  have hday := Date.dayNumber_of_ofDayNumber? hd
  have hsplit := Int.mul_ediv_add_emod n microsPerDay
  have hpos := Int.emod_nonneg n (show (microsPerDay : Int) ≠ 0 by decide)
  show ((d.dayNumber * microsPerDay + (n % microsPerDay).toNat : Nat) : Int) = n
  rw [← hday, Int.mul_comm] at hsplit
  rw [Int.natCast_add, Int.natCast_mul, Int.toNat_of_nonneg hpos, hsplit]

/-- The calendar reaches exactly the instants that it has. -/
lemma Moment.ofInstant?_eq_none_iff (n : Int) :
    ofInstant? n = none ↔ ¬ (0 ≤ n ∧ n < microCount) := by
  rw [ofInstant?, Option.map_eq_none_iff, Date.ofDayNumber?_eq_none_iff, not_iff_not]
  rw [fdiv_microsPerDay]
  unfold microCount dayCount microsPerDay
  omega

/-- A stamp has no moment in universal time where its distance leads out of the calendar. -/
lemma Stamp.toUniversal_eq_error_iff (s : Stamp) (fault : Fault) :
    s.toUniversal = .error fault ↔ fault = .outOfRange .calendar ∧ ∃ offset, s.offset = some offset ∧
      ¬ (0 ≤ s.moment.instant - offset.micros ∧ s.moment.instant - offset.micros < microCount) := by
  obtain ⟨moment, offset⟩ := s
  cases offset with
  | none => simp [toUniversal]
  | some offset =>
    have hshift := Moment.ofInstant?_eq_none_iff (moment.instant + -offset.micros)
    rw [← Int.sub_eq_add_neg] at hshift
    simp only [toUniversal, Moment.shift?, ← Int.sub_eq_add_neg, Option.some.injEq,
      exists_eq_left', ← hshift]
    cases Moment.ofInstant? (moment.instant - offset.micros) with
    | none => simp [eq_comm]
    | some m => simp

end TableFormula
