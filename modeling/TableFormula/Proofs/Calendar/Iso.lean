import Mathlib.Algebra.Group.Nat.Defs
import TableFormula.Calendar.Iso
import TableFormula.Proofs.Calendar.Days
import TableFormula.Proofs.Number.Written

/-!
# Written dates and times are read back

Every field of a date and of a time is written with a fixed number of digits, so a reader of fields
finds what was written, whatever follows (`digits?_padded`).  The date takes up ten characters, the
pairs of a time are read one by one, and the sign tells where the time ends.

**What is lost.**  Everything that is written is read back, except for a distance from universal
time that is shorter than a second: it is read as none (`read?_isoText`).
-/

namespace TableFormula

open Number

namespace Iso

/-- A field of fixed width is read back, whatever follows. -/
lemma digits?_padded {width n : Nat} (hwidth : 0 < width) (h : n < 10 ^ width) (rest : List Char) :
    digits? width (padded width n ++ rest) = some (n, rest) := by
  have hlength := length_padded hwidth h
  have hdigits : (padded width n).all Char.isDigit = true :=
    List.all_eq_true.mpr fun _ => isDigit_of_mem_padded
  have htake : (padded width n ++ rest).take width = padded width n := List.take_left' hlength
  have hdrop : (padded width n ++ rest).drop width = rest := List.drop_left' hlength
  have hfits : width ≤ (padded width n ++ rest).length := by
    rw [List.length_append, hlength]
    exact Nat.le_add_right _ _
  rw [digits?, htake, hdrop, if_pos ⟨hfits, hdigits⟩, natOf_padded]

/-- Most fields are pairs of digits. -/
lemma digits?_pair {n : Nat} (h : n < 10 ^ 2) (rest : List Char) :
    digits? 2 (padded 2 n ++ rest) = some (n, rest) :=
  digits?_padded (by decide) h rest

end Iso

/-! ## Dates -/

namespace Date

variable (d : Date)

lemma isoText_eq : d.isoText =
    padded 4 d.year ++ '-' :: (padded 2 d.month ++ '-' :: padded 2 d.day) := by
  simp [isoText]

lemma year_lt : d.year < 10 ^ 4 :=
  Nat.lt_succ_of_le d.inCalendar.1.2

lemma month_lt : d.month < 10 ^ 2 := by
  have h := d.inCalendar.2.1.2
  omega

lemma day_lt : d.day < 10 ^ 2 := by
  have h := d.inCalendar.2.2.2
  have hlength := Calendar.monthLength_le d.year d.month
  omega

lemma length_isoText : d.isoText.length = 10 := by
  rw [isoText_eq]
  simp [length_padded (by decide : 0 < 4) d.year_lt,
    length_padded (by decide : 0 < 2) d.month_lt, length_padded (by decide : 0 < 2) d.day_lt]

end Date

namespace Iso

/-- No field begins with the letter of weeks. -/
lemma padded_ne_week {width n : Nat} {rest cs : List Char} :
    padded width n ++ rest ≠ 'W' :: cs := by
  intro h
  obtain ⟨c, digits, hpadded⟩ := List.exists_cons_of_ne_nil (padded_ne_nil width n)
  have hdigit := isDigit_of_mem_padded (hpadded ▸ List.mem_cons_self : c ∈ padded width n)
  rw [hpadded] at h
  cases h
  cases hdigit

variable (d : Date)

/-- A written date takes up ten characters. -/
lemma dateLength?_isoText (rest : List Char) : dateLength? (d.isoText ++ rest) = some 10 := by
  have hlength : (d.isoText ++ rest).length ≠ 7 := by
    rw [List.length_append, d.length_isoText]
    omega
  have hyear := length_padded (by decide : 0 < 4) d.year_lt
  have hdash : (d.isoText ++ rest)[4]? = some '-' := by
    rw [d.isoText_eq, List.append_assoc, List.getElem?_append_right (Nat.le_of_eq hyear), hyear]
    rfl
  have hweek : (d.isoText ++ rest)[5]? ≠ some 'W' := by
    rw [d.isoText_eq, List.append_assoc, List.getElem?_append_right (by omega), hyear]
    show (padded 2 d.month ++ '-' :: padded 2 d.day ++ rest)[0]? ≠ some 'W'
    rw [← List.head?_eq_getElem?, List.append_assoc]
    intro h
    obtain ⟨cs, hcs⟩ := List.head?_eq_some_iff.mp h
    exact padded_ne_week hcs
  rw [dateLength?, if_neg hlength, if_pos hdash, if_neg hweek]

/-- A written date is read back. -/
lemma readDate?_isoText : readDate? d.isoText = some d := by
  have hyear := digits?_padded (by decide : 0 < 4) d.year_lt
    ('-' :: (padded 2 d.month ++ '-' :: padded 2 d.day))
  have hmonth := digits?_pair d.month_lt ('-' :: padded 2 d.day)
  have hday := digits?_pair d.day_lt []
  rw [List.append_nil] at hday
  rw [readDate?, d.isoText_eq, hyear]
  simp only [Option.bind_eq_bind, Option.bind_some, List.head?_cons, beq_self_eq_true, if_true,
    List.drop_succ_cons, List.drop_zero]
  split
  · next cs heq => exact absurd heq padded_ne_week
  · simp only [hmonth, Option.bind_some, char?, if_true, hday]
    exact d.of?_self

/-! ## Times -/

/-- Pairs of digits, with colons between them. -/
def pairsText (p : Nat) : List Nat → List Char
  | [] => padded 2 p
  | q :: rest => padded 2 p ++ ':' :: pairsText q rest

/-- What may be written after the pairs of a time, and the microseconds it stands for: digits of a
fraction behind a point, or nothing. -/
inductive SpellsFraction : List Char → Nat → Prop
  | nothing : SpellsFraction [] 0
  | point {width n : Nat} (hwidth : 0 < width) (hmost : width ≤ 6) (hn : n < 10 ^ width) :
    SpellsFraction ('.' :: padded width n) (n * 10 ^ (6 - width))

lemma readFraction?_padded {width n : Nat} (hwidth : 0 < width) (hmost : width ≤ 6)
    (hn : n < 10 ^ width) : readFraction? (padded width n) = some (n * 10 ^ (6 - width), []) := by
  have hcounted : min 6 (padded width n).length = width := by
    rw [length_padded hwidth hn]
    exact Nat.min_eq_right hmost
  have hdigits := digits?_padded hwidth hn []
  rw [List.append_nil] at hdigits
  simp only [readFraction?, hcounted, hdigits, Option.map_some, List.dropWhile_nil, Nat.pow_eq]

section

variable {cs rest : List Char} {value : Nat} {c : Char}

/-- Behind a colon the next pair is read. -/
lemma readPairs?_of_colon (h : digits? 2 cs = some (value, ':' :: c :: rest)) (more : Nat)
    {colons : Option Bool} (hcolons : colons ≠ some false) : readPairs? (more + 1) colons cs =
      (readPairs? more (some true) (c :: rest)).map fun clock =>
        { clock with pairs := value :: clock.pairs } := by
  have hgetD : colons.getD (':' == ':') = true := by
    obtain _ | _ | _ := colons
    · rfl
    · exact absurd rfl hcolons
    · rfl
  rw [readPairs?, h]
  simp only [hgetD]
  rfl

/-- Behind a point a fraction is read. -/
lemma readPairs?_of_point (h : digits? 2 cs = some (value, '.' :: c :: rest)) (more : Nat)
    (colons : Option Bool) : readPairs? more colons cs =
      (readFraction? (c :: rest)).map fun (micro, rest) => ⟨[value], micro, rest⟩ := by
  rw [readPairs?, h]
  simp

end

lemma pairsText_ne_nil (p : Nat) (pairs : List Nat) : pairsText p pairs ≠ [] := by
  cases pairs with
  | nil => exact padded_ne_nil 2 p
  | cons q pairs => exact List.append_ne_nil_of_left_ne_nil (padded_ne_nil 2 p) _

/-- Written pairs and a fraction are read back, as many pairs as a time may have.  The induction is
on the pairs behind the first one. -/
lemma readPairs?_pairsText {fraction : List Char} {micro : Nat}
    (hfraction : SpellsFraction fraction micro) (p : Nat) (pairs : List Nat)
    (hpairs : ∀ q ∈ p :: pairs, q < 10 ^ 2) {more : Nat} (hmore : pairs.length ≤ more)
    {colons : Option Bool} (hcolons : colons ≠ some false) :
    readPairs? more colons (pairsText p pairs ++ fraction) = some ⟨p :: pairs, micro, []⟩ := by
  have hp : p < 10 ^ 2 := hpairs p List.mem_cons_self
  induction pairs generalizing p more colons with
  | nil =>
    have hfirst := digits?_pair hp fraction
    cases hfraction with
    | nothing =>
      rw [pairsText, readPairs?, hfirst]
    | @point width n hwidth hmost hn =>
      have hread := readFraction?_padded hwidth hmost hn
      obtain ⟨c, digits, hdigits⟩ := List.exists_cons_of_ne_nil (padded_ne_nil width n)
      rw [hdigits] at hread hfirst
      rw [pairsText, hdigits, readPairs?_of_point hfirst, hread]
      rfl
  | cons q pairs ih =>
    obtain _ | more := more
    · cases hmore
    have hq : q < 10 ^ 2 := hpairs q (List.mem_cons_of_mem p List.mem_cons_self)
    have hcolon : some true ≠ some false := nofun
    have hrest := ih q (fun r hr => hpairs r (List.mem_cons_of_mem p hr))
      (Nat.le_of_succ_le_succ hmore) hcolon hq
    have hfirst := digits?_pair hp (':' :: (pairsText q pairs ++ fraction))
    -- A colon with nothing behind it would be left over, so what follows is taken apart.
    obtain ⟨c, cs, hcs⟩ : ∃ c cs, pairsText q pairs ++ fraction = c :: cs :=
      List.exists_cons_of_ne_nil
        (List.append_ne_nil_of_left_ne_nil (pairsText_ne_nil q pairs) fraction)
    rw [hcs] at hfirst hrest
    rw [pairsText, List.append_assoc, List.cons_append, hcs,
      readPairs?_of_colon hfirst more hcolons, hrest]
    rfl

/-- The microseconds of a second, written with six digits or not at all. -/
def microText (micro : Nat) : List Char :=
  if micro = 0 then [] else '.' :: padded 6 micro

lemma spellsFraction_microText {micro : Nat} (h : micro < 10 ^ 6) :
    SpellsFraction (microText micro) micro := by
  rw [microText]
  by_cases hzero : micro = 0
  · rw [if_pos hzero, hzero]
    exact .nothing
  · rw [if_neg hzero]
    simpa using SpellsFraction.point (by decide : 0 < 6) (Nat.le_refl 6) h

end Iso

namespace Moment

variable (m : Moment)

lemma hour_lt : m.hour < 24 := by
  have h := m.micros_lt
  unfold microsPerDay at h
  unfold hour
  omega

lemma minute_lt : m.minute < 60 :=
  Nat.mod_lt _ (by decide)

lemma second_lt : m.second < 60 :=
  Nat.mod_lt _ (by decide)

lemma micro_lt : m.micro < 10 ^ 6 :=
  Nat.mod_lt _ (by decide)

/-- A moment is the one of its day at its time of day. -/
lemma at?_self : at? m.date m.hour m.minute m.second m.micro = some m := by
  have hsum : ((m.hour * 60 + m.minute) * 60 + m.second) * 1000000 + m.micro = m.micros := by
    unfold hour minute second micro
    omega
  rw [at?, dif_pos ⟨m.hour_lt, m.minute_lt, m.second_lt, m.micro_lt⟩]
  simp only [hsum]

end Moment

namespace Iso

variable (m : Moment)

/-- The pairs of a time of day with a fraction are read back. -/
lemma readClock?_clock {fraction : List Char} {micro : Nat}
    (hfraction : SpellsFraction fraction micro) :
    readClock? (pairsText m.hour [m.minute, m.second] ++ fraction) =
      some ⟨[m.hour, m.minute, m.second], micro, []⟩ := by
  have hhour := m.hour_lt
  have hminute := m.minute_lt
  have hsecond := m.second_lt
  refine readPairs?_pairsText hfraction m.hour _ ?_ (Nat.le_refl 2) nofun
  intro q hq
  obtain rfl | rfl | rfl : q = m.hour ∨ q = m.minute ∨ q = m.second := by simpa using hq
  all_goals omega

/-! ## Characters -/

/-- The characters in which dates and times are written. -/
def isWritten (c : Char) : Bool :=
  c.isDigit || c == '-' || c == 'T' || c == ':' || c == '.' || c == '+'

/-- The characters in which times of day are written. -/
def isOfTime (c : Char) : Bool :=
  c.isDigit || c == ':' || c == '.'

lemma isOfTime_of_mem_pairsText {p : Nat} {pairs : List Nat} {c : Char}
    (h : c ∈ pairsText p pairs) : isOfTime c = true := by
  induction pairs generalizing p with
  | nil => simp [isOfTime, isDigit_of_mem_padded h]
  | cons q pairs ih =>
    rw [pairsText, List.mem_append, List.mem_cons] at h
    obtain h | rfl | h := h
    · simp [isOfTime, isDigit_of_mem_padded h]
    · rfl
    · exact ih h

lemma isOfTime_of_spellsFraction {fraction : List Char} {micro : Nat}
    (hfraction : SpellsFraction fraction micro) {c : Char} (h : c ∈ fraction) :
    isOfTime c = true := by
  cases hfraction with
  | nothing => cases h
  | point =>
    obtain rfl | h := List.mem_cons.mp h
    · rfl
    · simp [isOfTime, isDigit_of_mem_padded h]

lemma isOfTime_of_mem_time {fraction : List Char} {micro : Nat}
    (hfraction : SpellsFraction fraction micro) {p : Nat} {pairs : List Nat} {c : Char}
    (h : c ∈ pairsText p pairs ++ fraction) : isOfTime c = true := by
  obtain h | h := List.mem_append.mp h
  · exact isOfTime_of_mem_pairsText h
  · exact isOfTime_of_spellsFraction hfraction h

/-! ## Moments and stamps -/

/-- Whether a character goes on with a time of day, in front of a distance. -/
def isNoSign (c : Char) : Bool :=
  !(c == '+' || c == '-')

lemma isNoSign_of_isOfTime {c : Char} (h : isOfTime c = true) : isNoSign c = true := by
  rw [isNoSign, Bool.not_eq_true', Bool.eq_false_iff]
  intro hsign
  obtain rfl | rfl : c = '+' ∨ c = '-' := by simpa using hsign
  · cases h
  · cases h

/-- Reads a distance from universal time with its sign, where there is one. -/
def readDistance? : List Char → Option (Option Offset)
  | [] => some none
  | sign :: rest => (readOffset? (sign == '-') rest).map some

/-- A time of day is read up to the sign, and the distance from there. -/
lemma readTime?_append {time : List Char} (tail : List Char) {clock : Clock}
    (hread : readClock? time = some clock) (hwhole : clock.isWhole = true)
    (htime : ∀ c ∈ time, isOfTime c = true) (htail : tail.takeWhile isNoSign = [])
    (hmoment :
      Moment.at? m.date (clock.pair 0) (clock.pair 1) (clock.pair 2) clock.micro = some m) :
    readTime? m.date (time ++ tail) = (readDistance? tail).map fun offset => ⟨m, offset⟩ := by
  have hsigns : ∀ c ∈ time, isNoSign c = true := fun c hc => isNoSign_of_isOfTime (htime c hc)
  have htake : (time ++ tail).takeWhile isNoSign = time := by
    rw [List.takeWhile_append_of_pos hsigns, htail, List.append_nil]
  have hdrop : (time ++ tail).dropWhile isNoSign = tail := by
    have hsplit : tail.takeWhile isNoSign ++ tail.dropWhile isNoSign = tail :=
      List.takeWhile_append_dropWhile
    rw [htail, List.nil_append] at hsplit
    rw [List.dropWhile_append_of_pos hsigns, hsplit]
  unfold isNoSign at htake hdrop
  simp only [readTime?, htake, hdrop, hread, Option.bind_eq_bind, Option.bind_some, hmoment, hwhole,
    if_true]
  cases tail with
  | nil => rfl
  | cons sign rest =>
    simp only [readDistance?]
    cases readOffset? (sign == '-') rest <;> rfl

end Iso

/-! ## Distances from universal time -/

namespace Offset

variable (o : Offset)

lemma of?_micros : of? o.micros = some o :=
  dif_pos o.within_day

/-- What is read where a distance is written: none if it is shorter than a second. -/
def asRead : Offset :=
  if o.micros.natAbs < 1000000 then zero else o

/-- The full hours of a distance. -/
def hours : Nat := o.micros.natAbs / 3600000000

/-- The full minutes of the hour. -/
def minutes : Nat := o.micros.natAbs / 60000000 % 60

/-- The full seconds of the minute. -/
def seconds : Nat := o.micros.natAbs / 1000000 % 60

/-- The microseconds of the second. -/
def fraction : Nat := o.micros.natAbs % 1000000

/-- The pairs that are written behind the hours. -/
def lowerPairs : List Nat :=
  if o.seconds = 0 ∧ o.fraction = 0 then [o.minutes] else [o.minutes, o.seconds]

lemma isoText_eq : o.isoText = (if o.micros < 0 then '-' else '+') ::
    (Iso.pairsText o.hours o.lowerPairs ++ Iso.microText o.fraction) := by
  rw [isoText, lowerPairs]
  by_cases h : o.seconds = 0 ∧ o.fraction = 0
  · rw [if_pos h]
    unfold seconds fraction at h
    simp only [if_pos h, List.append_nil]
    rfl
  · rw [if_neg h]
    unfold seconds fraction at h
    simp only [if_neg h, List.append_assoc]
    simp only [Iso.pairsText, List.append_assoc, List.cons_append]
    rfl

lemma hours_lt : o.hours < 24 := by
  have h := o.within_day
  unfold microsPerDay at h
  unfold hours
  omega

lemma lt_of_mem_pairs {p : Nat} (h : p ∈ o.hours :: o.lowerPairs) : p < 10 ^ 2 := by
  have hhours := o.hours_lt
  have hminutes : o.minutes < 60 := Nat.mod_lt _ (by decide)
  have hseconds : o.seconds < 60 := Nat.mod_lt _ (by decide)
  have hp : p = o.hours ∨ p = o.minutes ∨ p = o.seconds := by
    rw [lowerPairs] at h
    split_ifs at h
    · obtain rfl | rfl := by simpa using h
      · exact .inl rfl
      · exact .inr (.inl rfl)
    · simpa using h
  omega

end Offset

namespace Iso

section

variable (o : Offset)

lemma readClock?_offset : readClock? (pairsText o.hours o.lowerPairs ++ microText o.fraction) =
    some ⟨o.hours :: o.lowerPairs, o.fraction, []⟩ := by
  have hmost : o.lowerPairs.length ≤ 2 := by
    rw [Offset.lowerPairs]
    split_ifs <;> simp
  have hfraction : SpellsFraction (microText o.fraction) o.fraction :=
    spellsFraction_microText (Nat.mod_lt _ (by decide))
  exact readPairs?_pairsText hfraction _ _ (fun _ => o.lt_of_mem_pairs) hmost nofun

/-- The seconds of a distance are read, whether they are written or not. -/
lemma getD_lowerPairs : o.lowerPairs.getD 0 0 = o.minutes ∧ o.lowerPairs.getD 1 0 = o.seconds := by
  rw [Offset.lowerPairs]
  split_ifs with h
  · exact ⟨rfl, h.1.symm⟩
  · exact ⟨rfl, rfl⟩

/-- What the sign, the seconds and the fraction of a distance say. -/
lemma signed_size : (if decide (o.micros < 0) = true then
      -(if o.micros.natAbs / 1000000 = 0 then 0
        else ((o.micros.natAbs / 1000000 : Nat) : Int) * 1000000 + o.fraction)
    else if o.micros.natAbs / 1000000 = 0 then 0
      else ((o.micros.natAbs / 1000000 : Nat) : Int) * 1000000 + o.fraction) = o.asRead.micros := by
  by_cases h : o.micros.natAbs < 1000000
  · rw [Offset.asRead, if_pos h, if_pos (Nat.div_eq_of_lt h), Int.neg_zero, ite_self]
    rfl
  · have hsize : ((o.micros.natAbs / 1000000 : Nat) : Int) * 1000000 + o.fraction =
        o.micros.natAbs := by
      unfold Offset.fraction
      omega
    have hfull : ¬ o.micros.natAbs / 1000000 = 0 := by omega
    rw [Offset.asRead, if_neg h, if_neg hfull, hsize]
    by_cases hnegative : o.micros < 0
    · rw [if_pos (decide_eq_true hnegative)]
      omega
    · rw [if_neg (by simpa using hnegative)]
      omega

/-- A written distance is read back, if it is not shorter than a second. -/
lemma readDistance?_isoText : readDistance? o.isoText = some (some o.asRead) := by
  have hsign : ((if o.micros < 0 then '-' else '+') == '-') = decide (o.micros < 0) := by
    by_cases h : o.micros < 0 <;> simp [h]
  have hseconds : (o.hours * 60 + o.minutes) * 60 + o.seconds = o.micros.natAbs / 1000000 := by
    unfold Offset.hours Offset.minutes Offset.seconds
    omega
  obtain ⟨hminute, hsecond⟩ := getD_lowerPairs o
  rw [o.isoText_eq, readDistance?, readOffset?, readClock?_offset, hsign]
  simp only [Option.bind_eq_bind, Option.bind_some, Clock.isWhole, List.isEmpty_nil, Bool.true_or,
    if_true, Clock.pair, List.getD_cons_zero, List.getD_cons_succ, hminute, hsecond, hseconds]
  rw [signed_size, Offset.of?_micros, Option.map_some]

lemma takeWhile_offset_isoText : o.isoText.takeWhile isNoSign = [] := by
  have hsign : ¬ isNoSign (if o.micros < 0 then '-' else '+') = true := by
    by_cases h : o.micros < 0 <;> simp [h, isNoSign]
  rw [o.isoText_eq, List.takeWhile_cons_of_neg hsign]

end

/-! ## Stamps -/

/-- A text that begins with a date and a separator has its time behind them. -/
lemma read?_append (d : Date) (time : List Char) :
    read? (d.isoText ++ 'T' :: time) = readTime? d time := by
  have hlength : ¬ (d.isoText ++ 'T' :: time).length < 7 := by
    rw [List.length_append, d.length_isoText]
    omega
  have htake : (d.isoText ++ 'T' :: time).take 10 = d.isoText :=
    List.take_left' d.length_isoText
  have hdrop : (d.isoText ++ 'T' :: time).drop 10 = 'T' :: time :=
    List.drop_left' d.length_isoText
  simp only [read?, if_neg hlength, dateLength?_isoText, Option.bind_eq_bind, Option.bind_some,
    htake, hdrop, readDate?_isoText]

/-- A date alone is read as its midnight. -/
lemma read?_date (d : Date) : read? d.isoText = some ⟨.midnight d, none⟩ := by
  have hlength : ¬ d.isoText.length < 7 := by
    rw [d.length_isoText]
    decide
  have hdate := dateLength?_isoText d []
  rw [List.append_nil] at hdate
  have htake : d.isoText.take 10 = d.isoText :=
    List.take_of_length_le (Nat.le_of_eq d.length_isoText)
  have hdrop : d.isoText.drop 10 = [] :=
    List.drop_of_length_le (Nat.le_of_eq d.length_isoText)
  simp only [read?, if_neg hlength, hdate, Option.bind_eq_bind, Option.bind_some, htake, hdrop,
    readDate?_isoText]

end Iso

/-- What is read where a stamp is written. -/
def Stamp.asRead (s : Stamp) : Stamp :=
  ⟨s.moment, s.offset.map Offset.asRead⟩

lemma Moment.isoText_eq (m : Moment) : m.isoText = m.date.isoText ++
    'T' :: (Iso.pairsText m.hour [m.minute, m.second] ++ Iso.microText m.micro) := by
  simp [isoText, textWith, clockText, Iso.pairsText, Iso.microText]

/-- **What is written is read back**, but for a distance that is shorter than a second. -/
lemma Iso.read?_isoText (s : Stamp) : read? s.isoText = some s.asRead := by
  obtain ⟨m, offset⟩ := s
  have hfraction := spellsFraction_microText m.micro_lt
  have hread := readClock?_clock m hfraction
  have htime : ∀ c ∈ pairsText m.hour [m.minute, m.second] ++ microText m.micro,
      isOfTime c = true := fun c => isOfTime_of_mem_time hfraction
  have htext : ∀ tail, read? (m.isoText ++ tail) =
      readTime? m.date (pairsText m.hour [m.minute, m.second] ++ microText m.micro ++ tail) := by
    intro tail
    rw [m.isoText_eq, List.append_assoc, List.cons_append, read?_append]
  cases offset with
  | none =>
    have hstamp := readTime?_append m [] hread rfl htime rfl m.at?_self
    rw [Stamp.isoText, htext, hstamp]
    rfl
  | some o =>
    have hstamp :=
      readTime?_append m o.isoText hread rfl htime (takeWhile_offset_isoText o) m.at?_self
    rw [Stamp.isoText, htext, hstamp, readDistance?_isoText]
    rfl

/-! ### Milliseconds -/

/-- A moment without the microseconds of its millisecond. -/
def Moment.toMillis (m : Moment) : Moment :=
  ⟨m.date, m.micros / 1000 * 1000, by
    have h := m.micros_lt
    unfold microsPerDay at *
    omega⟩

lemma Moment.toMillis_fields (m : Moment) : m.toMillis.hour = m.hour ∧
    m.toMillis.minute = m.minute ∧ m.toMillis.second = m.second ∧
    m.toMillis.micro = m.micro / 1000 * 10 ^ (6 - 3) := by
  have hmicros : m.toMillis.micros = m.micros / 1000 * 1000 := rfl
  unfold hour minute second micro
  rw [hmicros]
  omega

/-- What is written of a moment in milliseconds, up to its last character. -/
def Moment.millisText (m : Moment) : List Char :=
  m.date.isoText ++ 'T' :: (Iso.pairsText m.hour [m.minute, m.second] ++
    '.' :: padded 3 (m.micro / 1000))

lemma Moment.milliText_eq (m : Moment) : m.milliText = m.millisText ++ ['Z'] := by
  simp [milliText, millisText, clockText, Iso.pairsText]

lemma Moment.millis_lt (m : Moment) : m.micro / 1000 < 10 ^ 3 := by
  have h := m.micro_lt
  omega

/-- A moment in milliseconds is read back, with its distance from universal time in full. -/
lemma Iso.read?_millisText (m : Moment) :
    read? (m.millisText ++ ['+', '0', '0', ':', '0', '0']) = some ⟨m.toMillis, some .zero⟩ := by
  have hfraction := SpellsFraction.point (by decide : 0 < 3) (by decide) m.millis_lt
  have htime : ∀ c ∈ pairsText m.hour [m.minute, m.second] ++ '.' :: padded 3 (m.micro / 1000),
      isOfTime c = true := fun c => isOfTime_of_mem_time hfraction
  obtain ⟨hhour, hminute, hsecond, hmicro⟩ := m.toMillis_fields
  have hmoment := m.toMillis.at?_self
  rw [hhour, hminute, hsecond, hmicro] at hmoment
  have hstamp := readTime?_append m.toMillis ['+', '0', '0', ':', '0', '0']
    (readClock?_clock m hfraction) rfl htime rfl hmoment
  have hzero : readDistance? ['+', '0', '0', ':', '0', '0'] = some (some .zero) := by decide
  rw [hzero] at hstamp
  rw [Moment.millisText, List.append_assoc, List.cons_append, read?_append]
  exact hstamp

/-! ### Characters -/

namespace Iso

lemma isWritten_of_isOfTime {c : Char} (h : isOfTime c = true) : isWritten c = true := by
  simp only [isOfTime, Bool.or_eq_true] at h
  obtain (h | h) | h := h <;> simp [isWritten, h]

lemma isWritten_of_mem_padded {width n : Nat} {c : Char} (h : c ∈ padded width n) :
    isWritten c = true := by
  simp [isWritten, isDigit_of_mem_padded h]

lemma isWritten_of_mem_date {d : Date} {c : Char} (h : c ∈ d.isoText) : isWritten c = true := by
  rw [d.isoText_eq] at h
  simp only [List.mem_append, List.mem_cons] at h
  obtain h | rfl | h | rfl | h := h
  · exact isWritten_of_mem_padded h
  · rfl
  · exact isWritten_of_mem_padded h
  · rfl
  · exact isWritten_of_mem_padded h

lemma isWritten_of_mem_time {fraction : List Char} {micro : Nat}
    (hfraction : SpellsFraction fraction micro) {p : Nat} {pairs : List Nat} {c : Char}
    (h : c ∈ pairsText p pairs ++ fraction) : isWritten c = true :=
  isWritten_of_isOfTime (isOfTime_of_mem_time hfraction h)

lemma isWritten_of_mem_stamp {s : Stamp} {c : Char} (h : c ∈ s.isoText) : isWritten c = true := by
  rw [Stamp.isoText, s.moment.isoText_eq, List.mem_append, List.mem_append, List.mem_cons] at h
  obtain (h | rfl | h) | h := h
  · exact isWritten_of_mem_date h
  · rfl
  · exact isWritten_of_mem_time (spellsFraction_microText s.moment.micro_lt) h
  · cases hoffset : s.offset with
    | none =>
      rw [hoffset] at h
      cases h
    | some o =>
      rw [hoffset] at h
      simp only [o.isoText_eq, List.mem_cons] at h
      obtain rfl | h := h
      · by_cases hnegative : o.micros < 0 <;> simp [hnegative, isWritten]
      · exact isWritten_of_mem_time (spellsFraction_microText (Nat.mod_lt _ (by decide))) h

lemma isWritten_of_mem_millisText {m : Moment} {c : Char} (h : c ∈ m.millisText) :
    isWritten c = true := by
  rw [Moment.millisText, List.mem_append, List.mem_cons] at h
  obtain h | rfl | h := h
  · exact isWritten_of_mem_date h
  · rfl
  · exact isWritten_of_mem_time (SpellsFraction.point (by decide) (by decide) m.millis_lt) h

end Iso

end TableFormula
