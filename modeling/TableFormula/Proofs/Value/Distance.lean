import Mathlib.Data.Nat.Prime.Basic
import TableFormula.Calendar.Everyday.Reader
import TableFormula.Function.Meaning
import TableFormula.Proofs.Calendar.Days
import TableFormula.Proofs.Number.Decimals

/-!
# Days between moments

The full days between two moments are computed by a division of seconds that are rounded to a
double, and the quotient is rounded again.  So a distance that falls short of a number of days may
be taken for it.

The quotient reaches a whole number exactly if the rounded seconds do (`Nearest.nat_le_div_iff`), so
only the first rounding counts, and the seconds are rounded up to full days exactly if they fall
short of them by at most half a unit in the last place (`RoundsUp`).  This is the case for a few
microseconds, and for distances of centuries only.
-/

namespace TableFormula.Function

open Calendar Number
open Float.Model (UnpackedFloat)

/-! ## Seconds and days -/

section Seconds

variable {micros k : ℕ}

lemma mul_microsPerDay (k : ℕ) : k * microsPerDay = 86400 * k * 10 ^ 6 := by
  rw [show microsPerDay = 86400 * 10 ^ 6 from rfl, ← mul_assoc, mul_comm k]

lemma seconds_lt_days : (micros / 10 ^ 6 : ℚ) < (86400 * k : ℕ) ↔ micros < k * microsPerDay := by
  rw [div_lt_iff₀ (by norm_num), mul_microsPerDay]
  norm_cast

lemma days_lt_seconds : ((86400 * k : ℕ) : ℚ) < micros / 10 ^ 6 ↔ k * microsPerDay < micros := by
  rw [lt_div_iff₀ (by norm_num), mul_microsPerDay]
  norm_cast

lemma seconds_sub_days (micros k : ℕ) : (micros / 10 ^ 6 - (86400 * k : ℕ) : ℚ) =
    (micros - k * microsPerDay : ℤ) / 10 ^ 6 := by
  rw [microsPerDay]
  push_cast
  ring

/-- A part of a second, compared with half a unit. -/
lemma unit_iff (micros : ℤ) (b : ℕ) :
    (micros / 10 ^ 6 : ℚ) * 2 ^ 53 ≤ 2 ^ b ↔ micros * 2 ^ 53 ≤ 10 ^ 6 * 2 ^ b := by
  rw [div_mul_eq_mul_div, div_le_iff₀ (by norm_num), mul_comm (2 ^ b)]
  norm_cast

/-- The seconds of full days have a factor that is odd. -/
lemma days_ne_two_pow (k b : ℕ) : 86400 * k ≠ 2 ^ b := by
  intro h
  have hthree : 3 ∣ 2 ^ b := ⟨28800 * k, by omega⟩
  exact absurd (Nat.Prime.dvd_of_dvd_pow Nat.prime_three hthree) (by decide)

end Seconds

/-- Microseconds are read as the nearest number of seconds. -/
lemma exists_hasSize_seconds {micros : ℕ} (hpos : 0 < micros) (hmax : micros < 2 ^ 60) :
    ∃ r, HasSize (Float.ofScientific micros true 6) .positive r ∧ Nearest (micros / 10 ^ 6) r := by
  have hleast : (1 : ℚ) ≤ micros := by exact_mod_cast hpos
  have hmost : (micros : ℚ) ≤ 2 ^ 60 := by exact_mod_cast hmax.le
  have hseconds : IsNearest (Float.ofScientific micros true 6) .positive (micros * 10 ^ (-6 : ℤ)) :=
    isNearest_ofScientific micros (-6)
  rw [zpow_neg, zpow_ofNat, ← div_eq_mul_inv] at hseconds
  refine hseconds.exists_hasSize ?_ ?_
  · calc (2 : ℚ) ^ (-1000 : ℤ) ≤ 2 ^ (-20 : ℤ) := zpow_le_zpow_right₀ one_le_two (by decide)
      _ ≤ 1 / 10 ^ 6 := by norm_num
      _ ≤ micros / 10 ^ 6 := by gcongr
  · calc (micros / 10 ^ 6 : ℚ) ≤ 2 ^ 60 := (div_le_self (by positivity) (by norm_num)).trans hmost
      _ = 2 ^ (60 : ℤ) := by norm_num
      _ ≤ 2 ^ (1000 : ℤ) := zpow_le_zpow_right₀ one_le_two (by decide)

/-! ## Rounded days -/

/-- A distance in microseconds, its rounded seconds, and the rounded days of these. -/
structure RoundedDays (micros : ℕ) (x y : ℚ) : Prop where
  pos : 0 < micros
  lt : micros < 2 ^ 60
  seconds : Nearest (micros / 10 ^ 6) x
  days : Nearest (x / (86400 : ℕ)) y

namespace RoundedDays

variable {micros k : ℕ} {x y : ℚ}

lemma seconds_bounds (hpos : 0 < micros) (hlt : micros < 2 ^ 60)
    (hx : Nearest (micros / 10 ^ 6) x) :
    (micros / 10 ^ 6 : ℚ) < 2 ^ 52 ∧ 1 / 10 ^ 7 ≤ x ∧ x ≤ 2 ^ 42 := by
  have hone : (1 : ℚ) ≤ micros := by exact_mod_cast hpos
  have hmax : (micros / 10 ^ 6 : ℚ) < 2 ^ 42 := by
    have hcast : (micros : ℚ) < 2 ^ 60 := by exact_mod_cast hlt
    rw [div_lt_iff₀ (by norm_num)]
    norm_num at hcast ⊢
    linarith
  have hup : x ≤ (2 ^ 42 : ℕ) :=
    hx.le_nat (hmax.trans (by norm_num)) (by push_cast; exact hmax.le)
  have herror := (abs_lt.mp hx.error_lt).2
  push_cast at hup
  exact ⟨hmax.trans (by norm_num), by linarith, hup⟩

/-- Seconds of either sign are divided and rounded. -/
lemma exists_of_seconds {seconds : Float} {sign : UnpackedFloat.Sign} (hpos : 0 < micros)
    (hlt : micros < 2 ^ 60) (hseconds : HasSize seconds sign x)
    (hx : Nearest (micros / 10 ^ 6) x) :
    ∃ y, RoundedDays micros x y ∧ HasSize (seconds / 86400.0) sign y := by
  have hday : HasSize 86400.0 .positive (86400 : ℕ) :=
    ⟨86400 * 2 ^ 36, -36, by decide, rfl, by decide, by decide, by norm_num⟩
  have hsign : sign / UnpackedFloat.Sign.positive = sign := by
    cases sign <;> rfl
  obtain ⟨-, hlow, hup⟩ := seconds_bounds hpos hlt hx
  have hmin : 2 ^ (-100 : ℤ) ≤ x / (86400 : ℕ) := by
    rw [le_div_iff₀ (by norm_num)]
    norm_num at hlow ⊢
    linarith
  have hmax : x / (86400 : ℕ) ≤ 2 ^ (100 : ℤ) := by
    rw [div_le_iff₀ (by norm_num)]
    norm_num at hup ⊢
    linarith
  obtain ⟨y, hy, hnearest⟩ := hseconds.exists_div hday ⟨hmin, hmax⟩
  rw [hsign] at hy
  exact ⟨y, ⟨hpos, hlt, hx, hnearest⟩, hy⟩

variable (h : RoundedDays micros x y)

include h

lemma seconds_lt : (micros / 10 ^ 6 : ℚ) < 2 ^ 52 :=
  (seconds_bounds h.pos h.lt h.seconds).1

lemma seconds_lt' : (micros / 10 ^ 6 : ℚ) < 2 ^ 53 :=
  h.seconds_lt.trans (by norm_num)

lemma quotient_lt : x / (86400 : ℕ) < 2 ^ 53 := by
  have hup := (seconds_bounds h.pos h.lt h.seconds).2.2
  rw [div_lt_iff₀ (by norm_num)]
  norm_num at hup ⊢
  linarith

/-- Only the first rounding decides whether a number of days is reached. -/
lemma nat_le_iff (k : ℕ) : k ≤ y ↔ (86400 * k : ℕ) ≤ x :=
  h.seconds.nat_le_div_iff (by decide) h.days h.seconds_lt' h.quotient_lt k

lemma le_nat_iff (k : ℕ) : y ≤ k ↔ x ≤ (86400 * k : ℕ) :=
  h.seconds.div_le_nat_iff (by decide) h.days h.seconds_lt' h.quotient_lt k

/-- The rounded days reach the days that the distance has. -/
lemma nat_le (hk : k * microsPerDay ≤ micros) : k ≤ y :=
  (h.nat_le_iff k).mpr
    (h.seconds.nat_le h.seconds_lt' (not_lt.mp fun hlt => hk.not_gt (seconds_lt_days.mp hlt)))

/-- The rounded days do not pass the days that the distance does not have. -/
lemma le_nat (hk : micros ≤ k * microsPerDay) : y ≤ k :=
  (h.le_nat_iff k).mpr
    (h.seconds.le_nat h.seconds_lt' (not_lt.mp fun hlt => hk.not_gt (days_lt_seconds.mp hlt)))

lemma nat_le_iff_of_lt (hlt : micros < k * microsPerDay) (hk : k < 2 ^ 30) :
    k ≤ y ↔ (k * microsPerDay - micros : ℤ) * 2 ^ 53 ≤ 10 ^ 6 * 2 ^ (86400 * k).log2 := by
  rw [h.nat_le_iff, h.seconds.nat_le_iff_of_lt (by omega) (days_ne_two_pow k _)
    (seconds_lt_days.mpr hlt), ← neg_sub, seconds_sub_days, ← neg_div, ← Int.cast_neg, neg_sub,
    unit_iff]

lemma le_nat_iff_of_lt (hk : 0 < k) (hlt : k * microsPerDay < micros) :
    y ≤ k ↔ (micros - k * microsPerDay : ℤ) * 2 ^ 53 ≤ 10 ^ 6 * 2 ^ (86400 * k).log2 := by
  rw [h.le_nat_iff, h.seconds.le_nat_iff_of_lt (by omega) h.seconds_lt (days_lt_seconds.mpr hlt),
    seconds_sub_days, unit_iff]

end RoundedDays

/-! ## The floor of the days -/

/-- Whether a distance in microseconds falls short of a number of days by so little that the rounded
seconds are full days: by at most half a unit in the last place. -/
def RoundsUp (micros days : Int) : Prop :=
  (days * microsPerDay - micros) * 2 ^ 53 ≤ 10 ^ 6 * 2 ^ (86400 * days.natAbs).log2

instance (micros days : Int) : Decidable (RoundsUp micros days) :=
  inferInstanceAs (Decidable (_ ≤ _))

section Floor

variable (micros n : ℕ) (hpos : 0 < micros) (hmicros : micros < 2 ^ 60)

include hpos hmicros

/-- The floor of a distance forwards. -/
lemma floor_days (hle : n * microsPerDay ≤ micros) (hlt : micros < (n + 1) * microsPerDay) :
    Number.floor (Float.ofScientific micros true 6 / 86400.0) =
      .ok (if RoundsUp micros (n + 1) then n + 1 else n) := by
  obtain ⟨x, hseconds, hx⟩ := exists_hasSize_seconds hpos hmicros
  obtain ⟨y, hy, hdays⟩ := RoundedDays.exists_of_seconds hpos hmicros hseconds hx
  have hsmall : n + 1 < 2 ^ 30 := by
    unfold microsPerDay at hle
    omega
  have hlow := hy.nat_le hle
  have hup := hy.le_nat hlt.le
  have hround : RoundsUp micros (n + 1) ↔ ((n + 1 : ℕ) : ℚ) ≤ y :=
    (hy.nat_le_iff_of_lt hlt hsmall).symm
  push_cast at hup hround
  rw [hdays.floor_eq]
  congr 1
  rw [isNegative, if_neg (by decide), Int.floor_eq_iff]
  split_ifs with hreach
  · push_cast
    exact ⟨hround.mp hreach, by linarith⟩
  · rw [hround, not_le] at hreach
    exact ⟨by exact_mod_cast hlow, by exact_mod_cast hreach⟩

/-- The floor of a distance backwards. -/
lemma floor_neg_days (hlt : n * microsPerDay < micros) (hle : micros ≤ (n + 1) * microsPerDay) :
    Number.floor (-Float.ofScientific micros true 6 / 86400.0) =
      .ok (if RoundsUp (-micros) (-n) then -n else -(n + 1)) := by
  obtain ⟨x, hseconds, hx⟩ := exists_hasSize_seconds hpos hmicros
  obtain ⟨y, hy, hdays⟩ := RoundedDays.exists_of_seconds hpos hmicros hseconds.neg hx
  have hlow := hy.nat_le hlt.le
  have hup := hy.le_nat hle
  have hround : RoundsUp (-micros) (-n) ↔ y ≤ n := by
    have hexcess : (-(n : ℤ) * microsPerDay - -micros) = micros - n * microsPerDay := by ring
    rw [RoundsUp, hexcess, Int.natAbs_neg, Int.natAbs_natCast]
    obtain rfl | hn := Nat.eq_zero_or_pos n
    · have hzero : ¬ y ≤ (0 : ℕ) := not_le.mpr (by exact_mod_cast hdays.pos)
      refine iff_of_false ?_ hzero
      rw [Nat.mul_zero, show Nat.log2 0 = 0 from rfl]
      push_cast
      omega
    · exact (hy.le_nat_iff_of_lt hn hlt).symm
  push_cast at hup
  rw [hdays.floor_eq]
  congr 1
  rw [show isNegative (-UnpackedFloat.Sign.positive) = true from rfl, if_pos rfl, Int.floor_eq_iff]
  split_ifs with hreach
  · push_cast
    exact ⟨by linarith [hround.mp hreach], by linarith⟩
  · rw [hround, not_le] at hreach
    push_cast
    exact ⟨by linarith, by linarith⟩

end Floor

/-- The floor of the rounded days is the floor of the days, or the next number. -/
lemma floor_secondsBetween {start finish : Moment} {n : ℤ}
    (hle : start.instant + n * microsPerDay ≤ finish.instant)
    (hlt : finish.instant < start.instant + (n + 1) * microsPerDay) :
    Number.floor (secondsBetween start finish / 86400.0) =
      .ok (if RoundsUp (finish.instant - start.instant) (n + 1) then n + 1 else n) := by
  have hstart := start.instant_lt
  have hfinish := finish.instant_lt
  have hmicros : microCount < 2 ^ 60 := by decide
  rw [secondsBetween]
  obtain hneg | hzero | hpos := lt_trichotomy ((finish.instant : ℤ) - start.instant) 0
  · obtain ⟨micros, hvalue⟩ : ∃ micros : ℕ, (finish.instant : ℤ) - start.instant = -micros :=
      ⟨start.instant - finish.instant, by omega⟩
    obtain ⟨k, rfl⟩ : ∃ k : ℕ, n = -(k + 1) := by
      refine ⟨(-n - 1).toNat, ?_⟩
      unfold microsPerDay at hle
      omega
    have hfloor := floor_neg_days micros k (by omega) (by omega)
      (by unfold microsPerDay at *; omega) (by unfold microsPerDay at *; omega)
    rw [hvalue, if_pos (by omega), Int.natAbs_neg, Int.natAbs_natCast, hfloor,
      show -((k : ℤ) + 1) + 1 = -k by omega]
  · obtain rfl : n = 0 := by
      unfold microsPerDay at *
      omega
    rw [hzero]
    rfl
  · obtain ⟨micros, hvalue⟩ : ∃ micros : ℕ, (finish.instant : ℤ) - start.instant = micros :=
      ⟨finish.instant - start.instant, by omega⟩
    obtain ⟨k, rfl⟩ : ∃ k : ℕ, n = k := by
      refine ⟨n.toNat, ?_⟩
      unfold microsPerDay at hlt
      omega
    have hfloor := floor_days micros k (by omega) (by omega)
      (by unfold microsPerDay at *; omega) (by unfold microsPerDay at *; omega)
    rw [hvalue, if_neg (by omega), Int.natAbs_natCast, hfloor]

/-! ## How far the days are exact -/

/-- Days are compared as their microseconds are. -/
lemma lt_of_mul_microsPerDay_lt {n n' : ℤ} (h : n * microsPerDay < n' * microsPerDay) : n < n' :=
  lt_of_mul_lt_mul_right h (Int.natCast_nonneg _)

lemma log2_le_of_lt {n b : ℕ} (h : n < 2 ^ (b + 1)) : n.log2 ≤ b := by
  obtain rfl | hn := Nat.eq_zero_or_pos n
  · exact Nat.zero_le b
  · exact Nat.lt_succ_iff.mp ((Nat.log2_lt hn.ne').mpr h)

/-- The seconds are full days by rounding only if the distance is longer than five centuries and
falls short of the days by at most thirty microseconds. -/
lemma bounds_of_roundsUp {start finish : Moment} {days : ℤ}
    (hlt : finish.instant < start.instant + days * microsPerDay)
    (hle : start.instant + (days - 1) * microsPerDay ≤ finish.instant)
    (h : RoundsUp (finish.instant - start.instant) days) :
    198841 < days.natAbs ∧ start.instant + days * microsPerDay - finish.instant ≤ (30 : ℤ) := by
  have hstart := start.instant_lt
  have hfinish := finish.instant_lt
  have hcount : (microCount : ℤ) = dayCount * microsPerDay := rfl
  have hlow : -(dayCount : ℤ) < days := by
    refine lt_of_mul_microsPerDay_lt ?_
    rw [Int.neg_mul, ← hcount]
    linarith
  have hup : days - 1 < dayCount := by
    refine lt_of_mul_microsPerDay_lt ?_
    rw [← hcount]
    linarith
  obtain ⟨lack, hlack⟩ : ∃ lack : ℤ,
      lack = days * microsPerDay - (finish.instant - start.instant) := ⟨_, rfl⟩
  rw [RoundsUp, ← hlack] at h
  have hpower : ∀ {b : ℕ}, 86400 * days.natAbs < 2 ^ (b + 1) →
      lack * 2 ^ 53 ≤ 10 ^ 6 * 2 ^ b := fun hb => h.trans (Int.mul_le_mul_of_nonneg_left
    (pow_le_pow_right₀ (by decide) (log2_le_of_lt hb)) (by decide))
  constructor
  · by_contra hshort
    have hsmall := hpower (b := 33) (by omega)
    linarith
  · unfold dayCount at hlow hup
    have hlarge := hpower (b := 38) (by omega)
    omega

/-- Where both values are moments, their distance is the floor of the days between them. -/
lemma daysBetween_eq {v w : Value} {start finish : Moment} {days : ℤ}
    (hv : v.toMoment reader = .ok (some start)) (hw : w.toMoment reader = .ok (some finish))
    (h : Number.floor (secondsBetween start finish / 86400.0) = .ok days) :
    daysBetween reader v w = .ok (.integer days) := by
  -- The steps are taken one by one, so that nothing computes the moments.
  have hbind : ∀ {α β : Type} (a : α) (f : α → Except Fault β), (Except.ok a >>= f) = f a :=
    fun _ _ => rfl
  rw [daysBetween, hv, hbind, hw, hbind]
  dsimp only
  rw [h, hbind]
  rfl

/-- **Days between moments.**  There is one number of full days from the first moment to the second
one, counted downwards.  The distance of the two values is this number, unless the seconds between
them round up to one day more (`RoundsUp`): then it is the next number.  That happens only for
distances of more than 198841 days that fall short of full days by at most thirty microseconds. -/
theorem dateDiff_eq_floor_or_next {v w : Value} {start finish : Moment}
    (hv : v.toMoment reader = .ok (some start)) (hw : w.toMoment reader = .ok (some finish)) :
    ∃ days : ℤ, (∀ n : ℤ, (start.instant + n * microsPerDay ≤ finish.instant ∧
        finish.instant < start.instant + (n + 1) * microsPerDay) ↔ n = days) ∧
      dateDiff.applyTo? reader [v, w] = some (.ok (.integer
        (if RoundsUp (finish.instant - start.instant) (days + 1) then days + 1 else days))) ∧
      (RoundsUp (finish.instant - start.instant) (days + 1) →
        198841 < (days + 1).natAbs ∧
          start.instant + (days + 1) * microsPerDay - finish.instant ≤ (30 : ℤ)) := by
  obtain ⟨days, hle, hlt⟩ : ∃ days : ℤ, start.instant + days * microsPerDay ≤ finish.instant ∧
      finish.instant < start.instant + (days + 1) * microsPerDay := by
    refine ⟨((finish.instant : ℤ) - start.instant) / microsPerDay, ?_⟩
    unfold microsPerDay
    omega
  refine ⟨days, fun n => ⟨?_, ?_⟩, ?_, ?_⟩
  · rintro ⟨hle', hlt'⟩
    have hbefore : n < days + 1 := lt_of_mul_microsPerDay_lt (by linarith)
    have hafter : days < n + 1 := lt_of_mul_microsPerDay_lt (by linarith)
    omega
  · rintro rfl
    exact ⟨hle, hlt⟩
  · have happly : dateDiff.applyTo? reader [v, w] = some (daysBetween reader v w) := rfl
    rw [happly, daysBetween_eq hv hw (floor_secondsBetween hle hlt)]
  · exact bounds_of_roundsUp hlt (by linarith)

/-- From the first moment of the calendar to the last one it is a microsecond less than 3652059
days, which are counted in full. -/
theorem dateDiff_of_whole_calendar :
    dateDiff.applyTo? (Everyday.reader 2024) [.date ⟨1, 1, 1, by decide⟩,
      .stamp ⟨⟨⟨9999, 12, 31, by decide⟩, 86399999999, by decide⟩, none⟩] =
        some (.ok (.integer 3652059)) ∧
    Moment.instant ⟨⟨9999, 12, 31, by decide⟩, 86399999999, by decide⟩ <
      Moment.instant (.midnight ⟨1, 1, 1, by decide⟩) + 3652059 * microsPerDay := by
  obtain ⟨days, hfloor, happly, -⟩ := dateDiff_eq_floor_or_next
    (v := .date ⟨1, 1, 1, by decide⟩)
    (w := .stamp ⟨⟨⟨9999, 12, 31, by decide⟩, 86399999999, by decide⟩, none⟩) rfl rfl
  obtain rfl : 3652058 = days := (hfloor 3652058).mp ⟨by decide, by decide⟩
  refine ⟨?_, by decide⟩
  rw [happly, if_pos (by decide)]
  rfl

end TableFormula.Function
