import TableFormula.Calendar.Everyday.Reader
import TableFormula.Function.Meaning
import TableFormula.Proofs.Calendar.Iso
import TableFormula.Proofs.Text.Printed

/-!
# Moments in texts

A date, a stamp and the results of the functions of dates are texts as soon as they are joined with
other texts or handed on, and a text is read as a moment again where a date is wanted.  The text of
a date or of a stamp stands for the moment that the value itself stands for.

**One exception.**  A stamp shows its distance from universal time to the microsecond, but the
reader takes a distance of no full second for none.  So the text of a stamp whose distance is
shorter than a second, and not zero, is read as the moment that is shown in front of the distance.
-/

namespace TableFormula

open Text

variable {reader : Everyday.Reader}

/-! ## Texts that are left as they are -/

lemma Iso.printed_of_isWritten {c : Char} (h : isWritten c = true) : Printed c := by
  simp only [isWritten, Bool.or_eq_true, beq_iff_eq] at h
  obtain ((((hdigit | rfl) | rfl) | rfl) | rfl) | rfl := h
  · exact printed_of_isDigit hdigit
  all_goals decide

namespace Value

lemma ne_zulu_of_isWritten {c : Char} (h : Iso.isWritten c = true) : c ≠ 'Z' := by
  rintro rfl
  cases h

/-- A text in which no `Z` stands is left as it is. -/
lemma expandZulu_eq_self {cs : List Char} (h : ∀ c ∈ cs, c ≠ 'Z') : expandZulu cs = cs := by
  induction cs with
  | nil => rfl
  | cons c cs ih =>
    obtain ⟨hc, hcs⟩ := List.forall_mem_cons.mp h
    have hrest := ih hcs
    rw [expandZulu] at hrest ⊢
    rw [List.flatMap_cons, if_neg hc, hrest]
    rfl

/-- A text without blanks that is a stamp in the international format is the moment of the stamp. -/
lemma toMoment_text_of_read {cs : List Char} {written : Stamp}
    (hblank : ∀ c ∈ cs, Text.isBlank c = false)
    (hread : Iso.read? (expandZulu cs) = some written) :
    (text (String.ofList cs)).toMoment reader = written.toUniversal.map some := by
  rw [toMoment, momentOfText, String.toList_ofList, trim_eq_self hblank]
  cases cs with
  | nil => cases hread
  | cons c cs => simp only [hread]

/-- The same for a text in which no `Z` stands. -/
lemma toMoment_text_of_isWritten {cs : List Char} {written : Stamp}
    (hcs : ∀ c ∈ cs, Iso.isWritten c = true) (hread : Iso.read? cs = some written) :
    (text (String.ofList cs)).toMoment reader = written.toUniversal.map some := by
  have hblank : ∀ c ∈ cs, Text.isBlank c = false := fun c hc =>
    (Iso.printed_of_isWritten (hcs c hc)).isBlank_eq_false
  refine toMoment_text_of_read hblank ?_
  rw [expandZulu_eq_self fun c hc => ne_zulu_of_isWritten (hcs c hc), hread]

/-- The text of a date is read as its midnight. -/
lemma toMoment_text_date (d : Date) :
    (text (String.ofList d.isoText)).toMoment reader = .ok (some (.midnight d)) :=
  toMoment_text_of_isWritten (fun _ => Iso.isWritten_of_mem_date) (Iso.read?_date d)

/-- The text of a stamp is read as the moment of what is read. -/
lemma toMoment_text_stamp (s : Stamp) :
    (text (String.ofList s.isoText)).toMoment reader = s.asRead.toUniversal.map some :=
  toMoment_text_of_isWritten (fun _ => Iso.isWritten_of_mem_stamp) (Iso.read?_isoText s)

end Value

/-! ## Stamps in universal time -/

namespace Stamp

/-- The instant of a stamp in universal time, wherever it lies. -/
def instant (s : Stamp) : Int :=
  match s.offset with
  | none => s.moment.instant
  | some offset => s.moment.instant - offset.micros

/-- The moment of a stamp in universal time lies in the calendar. -/
def InCalendar (s : Stamp) : Prop :=
  0 ≤ s.instant ∧ s.instant < microCount

/-- The distance of a stamp is not zero, but shorter than a second. -/
def HasShortOffset (s : Stamp) : Prop :=
  ∃ offset, s.offset = some offset ∧ offset.micros ≠ 0 ∧ offset.micros.natAbs < 1000000

lemma instant_of_toUniversal {s : Stamp} {m : Moment} (h : s.toUniversal = .ok m) :
    (m.instant : Int) = s.instant := by
  obtain ⟨moment, offset⟩ := s
  cases offset with
  | none =>
    cases h
    rfl
  | some offset =>
    rw [toUniversal] at h
    cases hshift : moment.shift? (-offset.micros) with
    | none => simp [hshift] at h
    | some later =>
      simp only [hshift, Except.ok.injEq] at h
      rw [← h, Moment.instant_of_ofInstant? hshift]
      exact Int.sub_eq_add_neg.symm

/-- A stamp has a moment in universal time where the calendar reaches it. -/
lemma exists_toUniversal {s : Stamp} (h : s.InCalendar) : ∃ m, s.toUniversal = .ok m := by
  cases huniversal : s.toUniversal with
  | ok m => exact ⟨m, rfl⟩
  | error fault =>
    obtain ⟨-, offset, hoffset, hout⟩ := (toUniversal_eq_error_iff s fault).mp huniversal
    rw [InCalendar, instant, hoffset] at h
    exact absurd h hout

/-- No distance changes nothing. -/
lemma toUniversal_of_zero (m : Moment) {offset : Offset} (h : offset.micros = 0) :
    toUniversal ⟨m, some offset⟩ = .ok m := by
  -- Any zero will do: for the constant `Offset.zero` the instant would be computed.
  have hshift : m.shift? (-offset.micros) = some m := by
    rw [Moment.shift?, h, Int.neg_zero, Int.add_zero, m.ofInstant?_instant]
  simp only [toUniversal, hshift]

lemma asRead_eq_self {s : Stamp} (h : ¬ s.HasShortOffset) : s.asRead = s := by
  obtain ⟨moment, offset⟩ := s
  cases offset with
  | none => rfl
  | some offset =>
    have hself : offset.asRead = offset := by
      rw [Offset.asRead]
      by_cases hshort : offset.micros.natAbs < 1000000
      · have hzero : offset.micros = 0 := by
          by_contra hne
          exact h ⟨offset, rfl, hne, hshort⟩
        rw [if_pos hshort]
        obtain ⟨micros, hmicros⟩ := offset
        cases hzero
        rfl
      · rw [if_neg hshort]
    rw [asRead, Option.map_some, hself]

lemma toUniversal_asRead_of_short {s : Stamp} (h : s.HasShortOffset) :
    s.asRead.toUniversal = .ok s.moment := by
  obtain ⟨offset, hoffset, -, hshort⟩ := h
  have hzero : s.asRead = ⟨s.moment, some .zero⟩ := by
    rw [asRead, hoffset, Option.map_some, Offset.asRead, if_pos hshort]
  rw [hzero, toUniversal_of_zero s.moment rfl]

/-- A short distance leads to another moment. -/
lemma toUniversal_ne_of_short {s : Stamp} (h : s.HasShortOffset) :
    s.toUniversal ≠ .ok s.moment := by
  obtain ⟨offset, hoffset, hne, -⟩ := h
  intro hsame
  have hinstant := instant_of_toUniversal hsame
  rw [instant, hoffset] at hinstant
  simp only at hinstant
  omega

/-- A stamp without a distance lies in the calendar. -/
lemma inCalendar_of_offset_eq_none {s : Stamp} (h : s.offset = none) : s.InCalendar := by
  have hsome : Moment.ofInstant? s.moment.instant ≠ none := by
    rw [s.moment.ofInstant?_instant]
    exact Option.some_ne_none _
  rw [ne_eq, Moment.ofInstant?_eq_none_iff, not_not] at hsome
  rw [InCalendar, instant, h]
  exact hsome

end Stamp

namespace Value

lemma exists_toMoment_stamp {s : Stamp} (h : s.InCalendar) :
    ∃ m, (stamp s).toMoment reader = .ok (some m) ∧ (m.instant : Int) = s.instant := by
  obtain ⟨m, hm⟩ := Stamp.exists_toUniversal h
  refine ⟨m, ?_, Stamp.instant_of_toUniversal hm⟩
  rw [toMoment, hm]
  rfl

/-- The text of a stamp with a short distance is read as the moment in front of the distance. -/
lemma toMoment_text_of_short {s : Stamp} (h : s.HasShortOffset) :
    (text (String.ofList s.isoText)).toMoment reader = .ok (some s.moment) := by
  rw [toMoment_text_stamp, Stamp.toUniversal_asRead_of_short h]
  rfl

/-- The text of a stamp is read as the moment of the stamp, unless its distance is short. -/
lemma toMoment_text_eq_iff (s : Stamp) :
    (text (String.ofList s.isoText)).toMoment reader = (stamp s).toMoment reader ↔
      ¬ s.HasShortOffset := by
  constructor
  · intro hsame hshort
    rw [toMoment_text_of_short hshort, toMoment] at hsame
    cases huniversal : s.toUniversal with
    | error fault =>
      rw [huniversal] at hsame
      cases hsame
    | ok m =>
      rw [huniversal] at hsame
      have hm : m = s.moment := by
        cases hsame
        rfl
      exact Stamp.toUniversal_ne_of_short hshort (hm ▸ huniversal)
  · intro hlong
    rw [toMoment_text_stamp, Stamp.asRead_eq_self hlong, toMoment]

/-- The text of a moment in milliseconds is read as what it shows. -/
lemma toMoment_text_millis (m : Moment) :
    (text (String.ofList m.milliText)).toMoment reader = .ok (some m.toMillis) := by
  have hwritten : ∀ c ∈ m.millisText, Iso.isWritten c = true := fun _ =>
    Iso.isWritten_of_mem_millisText
  have hblank : ∀ c ∈ m.millisText ++ ['Z'], Text.isBlank c = false := by
    intro c hc
    obtain h | h := List.mem_append.mp hc
    · exact (Iso.printed_of_isWritten (hwritten c h)).isBlank_eq_false
    · obtain rfl := List.mem_singleton.mp h
      decide
  have hexpand : expandZulu (m.millisText ++ ['Z']) =
      m.millisText ++ ['+', '0', '0', ':', '0', '0'] := by
    have hself := expandZulu_eq_self fun c hc => ne_zulu_of_isWritten (hwritten c hc)
    rw [expandZulu] at hself ⊢
    rw [List.flatMap_append, hself]
    rfl
  rw [m.milliText_eq, toMoment_text_of_read hblank (hexpand ▸ Iso.read?_millisText m),
    Stamp.toUniversal_of_zero m.toMillis rfl]
  rfl

end Value

/-! ## Functions of dates -/

namespace Function

/-- A shift of a date is a text only if it is the text of the shifted date. -/
lemma exists_of_shiftDate_eq_text {v count unit : Value} {s : String}
    (h : shiftDate reader v count unit = .ok (.text s)) : ∃ m n word u d,
      v.toMoment reader = .ok (some m) ∧
      wholeNumber count = .ok n ∧ unit.toText = .ok word ∧
      DateUnit.ofName? (Text.lower word) = some u ∧
      DateUnit.shift u m.date n = .ok d ∧ s = String.ofList d.isoText := by
  obtain ⟨moment, hmoment, h⟩ := exists_of_bind_eq_ok h
  cases moment with
  | none => cases h
  | some m =>
    obtain ⟨n, hcount, h⟩ := exists_of_bind_eq_ok h
    obtain ⟨word, hword, h⟩ := exists_of_bind_eq_ok h
    cases hunit : DateUnit.ofName? (Text.lower word) with
    | none =>
      simp only [hunit] at h
      cases h
    | some u =>
      simp only [hunit] at h
      obtain ⟨d, hshift, h⟩ := exists_of_bind_eq_ok h
      cases h
      exact ⟨m, n, word, u, d, hmoment, hcount, hword, hunit, hshift, rfl⟩

/-- The shift of a date takes the date and a number, and a unit that is days if it is left out. -/
lemma exists_of_dateAdd_eq {args : List Value} {result : Value}
    (h : Function.dateAdd.applyTo? reader args = some (.ok result)) : ∃ v count rest,
      args = v :: count :: rest ∧
        shiftDate reader v count (rest.headD (.text "days")) = .ok result := by
  obtain _ | ⟨v, _ | ⟨count, _ | ⟨unit, _ | ⟨_, _⟩⟩⟩⟩ := args
  · cases h
  · cases h
  · exact ⟨v, count, [], rfl, Option.some.inj h⟩
  · exact ⟨v, count, [unit], rfl, Option.some.inj h⟩
  · cases h

lemma today_call_eq {c : Context} {m : Moment} (h : c.clock.now.toUniversal = .ok m)
    (args : List Evaluator) :
    Function.today.call args c = .ok (.text (String.ofList m.date.isoText)) := by
  show (c.clock.now.toUniversal >>= fun m => .ok (textOf m.date.isoText)) = _
  rw [h]
  rfl

lemma now_call_eq {c : Context} {m : Moment} (h : c.clock.now.toUniversal = .ok m)
    (args : List Evaluator) :
    Function.now.call args c = .ok (.text (String.ofList m.milliText)) := by
  show (c.clock.now.toUniversal >>= fun m => .ok (textOf m.milliText)) = _
  rw [h]
  rfl

end Function

open Value in
/-- **Written and read.**  The text of a date is read as its midnight, and the text of a stamp as
the moment of the stamp, in universal time, exactly if its distance from there is not shorter than a
second or is zero; the text of any other stamp is read as the moment in front of the distance.  The
current date is read as the midnight of the day of the clock, and the current moment as what the
clock shows, to the millisecond, both in universal time.  If a shift of a date gives a text, then it
is read as the midnight of the shifted date. -/
theorem toMoment_of_written (reader : Everyday.Reader) (d : Date) (s : Stamp) (c : Context)
    (args : List Evaluator) (values : List Value) (shifted : String) :
    ((date d).toMoment reader = .ok (some (.midnight d)) ∧
      ((date d).toText >>= fun t => (text t).toMoment reader) = .ok (some (.midnight d))) ∧
    (s.offset = none ∨ s.InCalendar →
      ∃ m, (stamp s).toMoment reader = .ok (some m) ∧ (m.instant : Int) = s.instant) ∧
    (((stamp s).toText >>= fun t => (text t).toMoment reader) = (stamp s).toMoment reader ↔
      ¬ s.HasShortOffset) ∧
    (s.HasShortOffset →
      ((stamp s).toText >>= fun t => (text t).toMoment reader) = .ok (some s.moment)) ∧
    (c.clock.now.InCalendar → ∃ m today now, (Moment.instant m : Int) = c.clock.now.instant ∧
      Function.today.call args c = .ok (text today) ∧
      (text today).toMoment reader = .ok (some (.midnight m.date)) ∧
      Function.now.call args c = .ok (text now) ∧
      (text now).toMoment reader = .ok (some m.toMillis)) ∧
    (Function.dateAdd.applyTo? reader values = some (.ok (text shifted)) →
      ∃ v count rest m n word unit later, values = v :: count :: rest ∧
        v.toMoment reader = .ok (some m) ∧ Function.wholeNumber count = .ok n ∧
        (rest.headD (text "days")).toText = .ok word ∧
        Function.DateUnit.ofName? (lower word) = some unit ∧
        unit.shift m.date n = .ok later ∧
        (text shifted).toMoment reader = .ok (some (.midnight later))) := by
  simp only [toText_date, toText_stamp, bind, Except.bind]
  refine ⟨⟨rfl, toMoment_text_date d⟩, ?_, toMoment_text_eq_iff s, toMoment_text_of_short, ?_, ?_⟩
  · rintro (hnone | hcalendar)
    · exact exists_toMoment_stamp (Stamp.inCalendar_of_offset_eq_none hnone)
    · exact exists_toMoment_stamp hcalendar
  · intro hcalendar
    obtain ⟨m, hm⟩ := Stamp.exists_toUniversal hcalendar
    exact ⟨m, _, _, Stamp.instant_of_toUniversal hm, Function.today_call_eq hm args,
      toMoment_text_date m.date, Function.now_call_eq hm args, toMoment_text_millis m⟩
  · intro h
    obtain ⟨v, count, rest, hvalues, hshift⟩ := Function.exists_of_dateAdd_eq h
    obtain ⟨m, n, word, unit, later, hmoment, hcount, hword, hunit, hlater, rfl⟩ :=
      Function.exists_of_shiftDate_eq_text hshift
    exact ⟨v, count, rest, m, n, word, unit, later, hvalues, hmoment, hcount, hword, hunit, hlater,
      toMoment_text_date later⟩

example : ((Value.text "2024-01-01T00:00:00+00:00:00.000001").toMoment
    (Everyday.reader 2024)).toOption =
    some (some (.midnight ⟨2024, 1, 1, by decide⟩)) := by decide +kernel

end TableFormula
