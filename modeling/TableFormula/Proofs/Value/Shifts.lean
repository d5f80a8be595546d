import TableFormula.Calendar.Everyday.Reader
import TableFormula.Proofs.Number.Whole
import TableFormula.Proofs.Value.Moments

/-!
# Shifts of dates by days

The days of the calendar are numbered, and a shift by some days adds to the number.  The result of a
shift is a text, which is read as a date again when it is shifted once more.  So two shifts are one
shift by the sum of their counts, by way of the text between them (`dateAdd_laws`).

**Overflow.**  The numbers end on both sides.  A shift beyond them is a fault, and the only one that
a shift by days or by weeks can come to.
-/

namespace TableFormula

/-! ## Shifts of day numbers -/

namespace Date

variable {d later : Date} {n : Int}

/-- A shift by days adds to the number of the day. -/
lemma addDays_eq_ok_iff : d.addDays n = .ok later ↔ (later.dayNumber : Int) = d.dayNumber + n := by
  constructor
  · intro h
    rw [addDays] at h
    cases hfound : ofDayNumber? (d.dayNumber + n) with
    | none => simp [hfound] at h
    | some found =>
      obtain rfl : found = later := by simpa [hfound] using h
      exact dayNumber_of_ofDayNumber? hfound
  · intro h
    rw [addDays, ← h, later.ofDayNumber?_dayNumber]

lemma addDays_eq_outOfRange (h : ∀ later, d.addDays n ≠ .ok later) :
    d.addDays n = .error (.outOfRange (shiftExcess n)) := by
  rw [addDays] at h ⊢
  cases hfound : ofDayNumber? (d.dayNumber + n) with
  | none => rfl
  | some found =>
    rw [hfound] at h
    exact absurd rfl (h found)

lemma addDays_zero (d : Date) : d.addDays 0 = .ok d :=
  addDays_eq_ok_iff.mpr (Int.add_zero _).symm

lemma isoText_injective {e : Date} (h : d.isoText = e.isoText) : d = e := by
  have hread := Iso.readDate?_isoText (d := d)
  rw [h, Iso.readDate?_isoText] at hread
  exact (Option.some.inj hread).symm

end Date

namespace Function

/-! ## Shifts of values -/

variable {reader : Everyday.Reader} {v count unit : Value} {m : Moment} {n : Int} {word : String}

/-- What is shifted is the date of a moment, by a whole number of units. -/
lemma shiftDate_eq {u : DateUnit} (hv : v.toMoment reader = .ok (some m))
    (hcount : wholeNumber count = .ok n)
    (hword : unit.toText = .ok word) (hunit : DateUnit.ofName? (Text.lower word) = some u) :
    shiftDate reader v count unit = (u.shift m.date n).map (textOf ·.isoText) := by
  rw [shiftDate, hv]
  show (wholeNumber count >>= _) = _
  rw [hcount]
  simp only [bind, Except.bind, hword, hunit]
  cases u.shift m.date n with
  | error fault => rfl
  | ok d => rfl

/-- A shift by days gives the text of the day with the number. -/
lemma dateAdd_days (hv : v.toMoment reader = .ok (some m)) (hcount : wholeNumber count = .ok n) :
    Function.dateAdd.applyTo? reader [v, count, .text "days"] =
      some ((m.date.addDays n).map (textOf ·.isoText)) := by
  have hunit : DateUnit.ofName? (Text.lower "days") = some .day := by decide
  show some (shiftDate reader v count (.text "days")) = _
  rw [shiftDate_eq hv hcount (Value.toText_text _) hunit, DateUnit.shift]

lemma dateAdd_weeks (hv : v.toMoment reader = .ok (some m)) (hcount : wholeNumber count = .ok n) :
    Function.dateAdd.applyTo? reader [v, count, .text "weeks"] =
      some ((m.date.addDays (7 * n)).map (textOf ·.isoText)) := by
  have hunit : DateUnit.ofName? (Text.lower "weeks") = some .week := by decide
  show some (shiftDate reader v count (.text "weeks")) = _
  rw [shiftDate_eq hv hcount (Value.toText_text _) hunit, DateUnit.shift]

/-- Days are the units where none are given. -/
lemma dateAdd_without_unit (v count : Value) :
    Function.dateAdd.applyTo? reader [v, count] =
      Function.dateAdd.applyTo? reader [v, count, .text "days"] :=
  rfl

/-- Integers and floats without fraction count as themselves. -/
lemma wholeNumber_number {number : Int → Value}
    (hnumber : number = .integer ∨ number = fun n => .float (Float.ofInt n))
    (hmax : n.natAbs < 2 ^ 53) : wholeNumber (number n) = .ok n := by
  obtain rfl | rfl := hnumber
  · exact wholeNumber_integer hmax
  · exact wholeNumber_float hmax

/-- A shift by days has a value only where the calendar has the day. -/
lemma exists_of_dateAdd_days {shifted : Value} (hv : v.toMoment reader = .ok (some m))
    (hcount : wholeNumber count = .ok n)
    (h : Function.dateAdd.applyTo? reader [v, count, .text "days"] = some (.ok shifted)) :
    ∃ later : Date, (later.dayNumber : Int) = m.date.dayNumber + n ∧
      shifted = textOf later.isoText := by
  rw [dateAdd_days hv hcount] at h
  cases hshift : m.date.addDays n with
  | error fault =>
    rw [hshift] at h
    cases h
  | ok later =>
    rw [hshift] at h
    cases h
    exact ⟨later, Date.addDays_eq_ok_iff.mp hshift, rfl⟩

/-- Shifts of one moment that give the same text are by the same number of days. -/
lemma eq_of_dateAdd_eq {count' : Value} {n' : Int} {shifted : Value}
    (hv : v.toMoment reader = .ok (some m)) (hcount : wholeNumber count = .ok n)
    (hcount' : wholeNumber count' = .ok n')
    (h : Function.dateAdd.applyTo? reader [v, count, .text "days"] = some (.ok shifted))
    (h' : Function.dateAdd.applyTo? reader [v, count', .text "days"] = some (.ok shifted)) :
    n = n' := by
  obtain ⟨later, hday, rfl⟩ := exists_of_dateAdd_days hv hcount h
  obtain ⟨later', hday', htext⟩ := exists_of_dateAdd_days hv hcount' h'
  have hsame : later.isoText = later'.isoText := String.ofList_injective (Value.text.inj htext)
  rw [Date.isoText_injective hsame] at hday
  omega

/-- **Shifts by days.**  For a value that is read as a moment, with counts given as integers or as
floats: a shift by days gives the text of the day with the number, and a shift of that text is one
shift by the sum of the counts, where both days are in the calendar.  No days give the date of the
moment, different numbers of days different texts.  A shift by weeks has the outcome of the shift by
seven times as many days, which is a text or a fault for leaving the calendar. -/
theorem dateAdd_laws (hv : v.toMoment reader = .ok (some m)) {number : Int → Value}
    (hnumber : number = .integer ∨ number = fun n => .float (Float.ofInt n)) :
    (∀ a b : Int, a.natAbs ≤ 10 ^ 9 → b.natAbs ≤ 10 ^ 9 → ∀ between last : Date,
      (between.dayNumber : Int) = m.date.dayNumber + a →
      (last.dayNumber : Int) = m.date.dayNumber + (a + b) →
      Function.dateAdd.applyTo? reader [v, number a, .text "days"] =
          some (.ok (textOf between.isoText)) ∧
        Function.dateAdd.applyTo? reader [textOf between.isoText, number b, .text "days"] =
          some (.ok (textOf last.isoText)) ∧
        Function.dateAdd.applyTo? reader [v, number (a + b), .text "days"] =
          some (.ok (textOf last.isoText))) ∧
    Function.dateAdd.applyTo? reader [v, number 0] = some (.ok (textOf m.date.isoText)) ∧
    (∀ a b : Int, a.natAbs ≤ 10 ^ 9 → b.natAbs ≤ 10 ^ 9 → ∀ shifted,
      Function.dateAdd.applyTo? reader [v, number a, .text "days"] = some (.ok shifted) →
      Function.dateAdd.applyTo? reader [v, number b, .text "days"] = some (.ok shifted) → a = b) ∧
    ∀ n : Int, n.natAbs ≤ 10 ^ 9 →
      Function.dateAdd.applyTo? reader [v, number n, .text "weeks"] =
          Function.dateAdd.applyTo? reader [v, number (7 * n), .text "days"] ∧
        ((∃ later : Date, Function.dateAdd.applyTo? reader [v, number n, .text "weeks"] =
            some (.ok (textOf later.isoText))) ∨
          Function.dateAdd.applyTo? reader [v, number n, .text "weeks"] =
            some (.error (.outOfRange (Date.shiftExcess (7 * n))))) := by
  have hcount : ∀ n : Int, n.natAbs < 2 ^ 53 → wholeNumber (number n) = .ok n :=
    fun n hmax => wholeNumber_number hnumber hmax
  refine ⟨?_, ?_, ?_, ?_⟩
  · intro a b ha hb between last hbetween hlast
    have hfirst : m.date.addDays a = .ok between := Date.addDays_eq_ok_iff.mpr hbetween
    have hboth : m.date.addDays (a + b) = .ok last := Date.addDays_eq_ok_iff.mpr hlast
    have hsecond : between.addDays b = .ok last := Date.addDays_eq_ok_iff.mpr (by omega)
    have hread : (textOf between.isoText).toMoment reader = .ok (some (.midnight between)) :=
      Value.toMoment_text_date between
    refine ⟨?_, ?_, ?_⟩
    · rw [dateAdd_days hv (hcount a (by omega)), hfirst]
      rfl
    · rw [dateAdd_days hread (hcount b (by omega))]
      show some ((between.addDays b).map _) = _
      rw [hsecond]
      rfl
    · rw [dateAdd_days hv (hcount (a + b) (by omega)), hboth]
      rfl
  · rw [dateAdd_without_unit, dateAdd_days hv (hcount 0 (by decide)), Date.addDays_zero]
    rfl
  · intro a b ha hb shifted h h'
    exact eq_of_dateAdd_eq hv (hcount a (by omega)) (hcount b (by omega)) h h'
  · intro n hn
    rw [dateAdd_weeks hv (hcount n (by omega)), dateAdd_days hv (hcount (7 * n) (by omega))]
    refine ⟨rfl, ?_⟩
    by_cases hlater : ∃ later, m.date.addDays (7 * n) = .ok later
    · obtain ⟨later, hlater⟩ := hlater
      rw [hlater]
      exact .inl ⟨later, rfl⟩
    · rw [Date.addDays_eq_outOfRange fun later h => hlater ⟨later, h⟩]
      exact .inr rfl

/-- Two days on from the end of February and one day back, in a leap year. -/
theorem dateAdd_around_leapDay :
    (Value.date ⟨2024, 2, 28, by decide⟩).toMoment (Everyday.reader 2024) =
        .ok (some (.midnight ⟨2024, 2, 28, by decide⟩)) ∧
      Function.dateAdd.applyTo? (Everyday.reader 2024)
        [.date ⟨2024, 2, 28, by decide⟩, .integer 2, .text "days"] =
        some (.ok (.text "2024-03-01")) ∧
      Function.dateAdd.applyTo? (Everyday.reader 2024)
        [.text "2024-03-01", .integer (-1), .text "days"] =
        some (.ok (.text "2024-02-29")) := by
  have hdate : (Value.date ⟨2024, 2, 28, by decide⟩).toMoment (Everyday.reader 2024) =
      .ok (some (.midnight ⟨2024, 2, 28, by decide⟩)) := rfl
  obtain ⟨haction, -⟩ := dateAdd_laws hdate (.inl rfl)
  obtain ⟨hfirst, hsecond, -⟩ := haction 2 (-1) (by decide) (by decide)
    ⟨2024, 3, 1, by decide⟩ ⟨2024, 2, 29, by decide⟩ (by decide) (by decide)
  exact ⟨hdate, hfirst, hsecond⟩

end Function

end TableFormula
