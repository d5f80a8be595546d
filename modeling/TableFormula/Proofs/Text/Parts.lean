import TableFormula.Calendar.Everyday.Reader
import TableFormula.Formula.Operation
import TableFormula.Proofs.Value.Shifts

/-!
# Parts of texts

The functions that take a text apart count from one, and clip what lies outside the text.  They fit
together: a replacement is the text before its span, the new text and the text behind the span, and
a part that is put back where it was taken gives the text again (`part_laws`).

**Exact counts.**  Places and lengths are read as doubles.  A double tells the whole numbers apart up
to `2 ^ 53`, which bounds the places, and the length of a text where it is a count itself.
-/

namespace TableFormula

/-! ## Spans of characters -/

namespace Text

variable {i n : ℤ} {cs new : List Char}

lemma leading_of_nonneg (hn : 0 ≤ n) : leading n cs = cs.take n.toNat :=
  if_pos hn

/-- A count that reaches the end takes all that is left. -/
lemma middle_of_length_le (hn : cs.length ≤ n) : middle i n cs = cs.drop (i - 1).toNat := by
  refine List.take_of_length_le ?_
  rw [List.length_drop]
  omega

/-- A replacement is what stands before the span, the new text, and what stands behind it. -/
lemma splice_eq_append (hi : 1 ≤ i) (hn : 0 ≤ n) :
    splice i n new cs = leading (i - 1) cs ++ new ++ middle (i + n) cs.length cs := by
  have hend : (i + n - 1).toNat = (i - 1).toNat + n.toNat := by omega
  rw [leading_of_nonneg (by omega), middle_of_length_le le_rfl, hend, splice]

/-- A span that is put back where it was taken changes nothing. -/
lemma splice_middle (i n : ℤ) (cs : List Char) : splice i n (middle i n cs) cs = cs := by
  rw [splice, middle, ← List.drop_drop, List.append_assoc, List.take_append_drop,
    List.take_append_drop]

lemma middle_one (hn : 0 ≤ n) : middle 1 n cs = leading n cs := by
  rw [leading_of_nonneg hn]
  rfl

/-- A text cut at a place is its first characters and its last ones. -/
lemma leading_append_trailing (hn : 0 ≤ n) (hmax : n ≤ cs.length) :
    leading n cs ++ trailing (cs.length - n) cs = cs := by
  have hrest : cs.length - (cs.length - n).toNat = n.toNat := by omega
  rw [leading_of_nonneg hn, trailing, hrest, List.take_append_drop]

lemma length_leading (hn : 0 ≤ n) : ((leading n cs).length : ℤ) = min n cs.length := by
  rw [leading_of_nonneg hn, List.length_take, Nat.cast_min, Int.toNat_of_nonneg hn]

lemma length_trailing (hn : 0 ≤ n) : ((trailing n cs).length : ℤ) = min n cs.length := by
  rw [trailing, List.length_drop]
  omega

end Text

namespace Function

variable {reader : Everyday.Reader} {v count start : Value} {s : String} {i n : ℤ}

/-! ## What the functions make of exact counts -/

/-- Integers and floats without fraction count as themselves as long as doubles tell them apart. -/
lemma wholeNumber_of_le {number : Int → Value}
    (hnumber : number = .integer ∨ number = fun n => .float (Float.ofInt n))
    (hn : 0 ≤ n) (hmax : n ≤ 2 ^ 53) : wholeNumber (number n) = .ok n := by
  obtain hlt | rfl := hmax.lt_or_eq
  · exact wholeNumber_number hnumber (by omega)
  · obtain rfl | rfl := hnumber
    · decide +kernel
    · decide +kernel

lemma left_of_count (hv : v.toText = .ok s) (hcount : wholeNumber count = .ok n) :
    Function.left.applyTo? reader [v, count] = some (.ok (textOf (Text.leading n s.toList))) := by
  show some (leftPart v count) = _
  rw [leftPart, hv, hcount]
  rfl

/-- A count that is not positive takes no characters, as it does from any text. -/
lemma right_of_count (hv : v.toText = .ok s) (hcount : wholeNumber count = .ok n) :
    Function.right.applyTo? reader [v, count] = some (.ok (textOf (Text.trailing n s.toList))) := by
  show some (rightPart v count) = _
  rw [rightPart, hv, hcount]
  by_cases hn : 0 < n
  · simp only [bind, Except.bind, if_pos hn]
    rfl
  · have hnone : n.toNat = 0 := by omega
    have htrailing : Text.trailing n s.toList = [] := by
      rw [Text.trailing, hnone, Nat.sub_zero, List.drop_length]
    simp only [bind, Except.bind, if_neg hn, htrailing]
    rfl

lemma mid_of_counts (hv : v.toText = .ok s) (hstart : wholeNumber start = .ok i)
    (hcount : wholeNumber count = .ok n) :
    Function.mid.applyTo? reader [v, start, count] =
      some (.ok (textOf (Text.middle i n s.toList))) := by
  show some (middlePart v start count) = _
  rw [middlePart, hstart, hv, hcount]
  rfl

/-- A replacement needs the text of what it puts in. -/
lemma replace_of_counts (hv : v.toText = .ok s) (hstart : wholeNumber start = .ok i)
    (hcount : wholeNumber count = .ok n) (new : Value) :
    Function.replace.applyTo? reader [v, start, count, new] =
      some (new.toText.map fun t => textOf (Text.splice i n t.toList s.toList)) := by
  show some (replacePart v start count new) = _
  rw [replacePart, hv, hstart, hcount]
  cases new.toText with
  | error fault => rfl
  | ok t => rfl

lemma toText_textOf (cs : List Char) : (textOf cs).toText = .ok (String.ofList cs) :=
  rfl

lemma length_of_toText (hv : v.toText = .ok s) :
    Function.length.applyTo? reader [v] = some (.ok (.integer s.length)) := by
  show some (v.toText.map fun s => Value.integer s.length) = _
  rw [hv]
  rfl

lemma length_textOf (cs : List Char) :
    Function.length.applyTo? reader [textOf cs] = some (.ok (.integer cs.length)) := by
  rw [length_of_toText (toText_textOf cs), String.length_ofList]

lemma textOf_toList (s : String) : textOf s.toList = .text s :=
  congrArg Value.text String.ofList_toList

/-- Joined parts are the text of all their characters. -/
lemma join_textOf (cs : List Char) (w : Value) :
    Operator.join.apply (textOf cs) w = w.toText.map fun t => textOf (cs ++ t.toList) := by
  show (w.toText >>= fun t => pure (Value.text (String.ofList cs ++ t))) = _
  cases w.toText with
  | error fault => rfl
  | ok t =>
    have hchars : String.ofList cs ++ t = String.ofList (cs ++ t.toList) := by
      rw [String.ofList_append, String.ofList_toList]
    exact congrArg (fun s => Except.ok (Value.text s)) hchars

lemma join_textOf_textOf (cs ds : List Char) :
    Operator.join.apply (textOf cs) (textOf ds) = .ok (textOf (cs ++ ds)) := by
  rw [join_textOf, toText_textOf]
  exact congrArg (fun cs' => Except.ok (textOf (cs ++ cs'))) String.toList_ofList

/-! ## The functions together -/

/-- **Parts.**  For a value with a text, and places and lengths that are exact as doubles: what
replaces a span of the text stands between the first characters and the rest of the text; a part that
is put back where it was taken gives the text; the part from the first place on is the first
characters; the first and the last characters, so many as the text has, give the text; and the
functions of first and last characters give as many as they are asked for, or all that there are. -/
theorem part_laws {reader : Everyday.Reader} {v : Value} {s : String} (hv : v.toText = .ok s)
    (new : Value) {number : Int → Value}
    (hnumber : number = .integer ∨ number = fun n => .float (Float.ofInt n)) :
    (∀ i n : ℤ, 1 ≤ i → 0 ≤ n → i + n ≤ 2 ^ 53 → (s.length : ℤ) ≤ 2 ^ 53 →
      ∃ length before behind,
        Function.length.applyTo? reader [v] = some (.ok length) ∧
        Function.left.applyTo? reader [v, number (i - 1)] = some (.ok before) ∧
        Function.mid.applyTo? reader [v, number (i + n), length] = some (.ok behind) ∧
        Function.replace.applyTo? reader [v, number i, number n, new] =
          some (Operator.join.apply before new >>= fun front => Operator.join.apply front behind) ∧
        ((∃ t, new.toText = .ok t) → ∃ front, Operator.join.apply before new = .ok front)) ∧
    (∀ i n : ℤ, 1 ≤ i → 0 ≤ n → i + n ≤ 2 ^ 53 →
      ∃ part, Function.mid.applyTo? reader [v, number i, number n] = some (.ok part) ∧
        Function.replace.applyTo? reader [v, number i, number n, part] = some (.ok (.text s))) ∧
    (∀ n : ℤ, 0 ≤ n → n ≤ 2 ^ 53 →
      ∃ part, Function.mid.applyTo? reader [v, number 1, number n] = some (.ok part) ∧
        Function.left.applyTo? reader [v, number n] = some (.ok part)) ∧
    (∀ k : ℤ, 0 ≤ k → k ≤ s.length → (s.length : ℤ) ≤ 2 ^ 53 →
      ∃ front back, Function.left.applyTo? reader [v, number k] = some (.ok front) ∧
        Function.right.applyTo? reader [v, number (s.length - k)] = some (.ok back) ∧
        Operator.join.apply front back = .ok (.text s)) ∧
    (∀ n : ℤ, 0 ≤ n → n ≤ 2 ^ 53 →
      ∃ front back, Function.left.applyTo? reader [v, number n] = some (.ok front) ∧
        Function.length.applyTo? reader [front] = some (.ok (.integer (min n s.length))) ∧
        Function.right.applyTo? reader [v, number n] = some (.ok back) ∧
        Function.length.applyTo? reader [back] = some (.ok (.integer (min n s.length)))) := by
  have hcount : ∀ {n : ℤ}, 0 ≤ n → n ≤ 2 ^ 53 → wholeNumber (number n) = .ok n :=
    fun hn hmax => wholeNumber_of_le hnumber hn hmax
  have hlength : (s.toList.length : ℤ) = s.length := by rw [String.length_toList]
  refine ⟨fun i n hi hn hmax hlong => ?_, fun i n hi hn hmax => ?_, fun n hn hmax => ?_,
    fun k hk hlast hlong => ?_, fun n hn hmax => ?_⟩
  · refine ⟨_, _, _, length_of_toText hv, left_of_count hv (hcount (by omega) (by omega)),
      mid_of_counts hv (hcount (by omega) hmax) (wholeNumber_of_le (.inl rfl) (by omega) hlong),
      ?_, ?_⟩
    · rw [replace_of_counts hv (hcount (by omega) (by omega)) (hcount hn (by omega)), join_textOf]
      cases new.toText with
      | error fault => rfl
      | ok t =>
        simp only [Except.map, bind, Except.bind, join_textOf_textOf]
        rw [Text.splice_eq_append hi hn, hlength]
    · rintro ⟨t, ht⟩
      rw [join_textOf, ht]
      exact ⟨_, rfl⟩
  · refine ⟨_, mid_of_counts hv (hcount (by omega) (by omega)) (hcount hn (by omega)), ?_⟩
    rw [replace_of_counts hv (hcount (by omega) (by omega)) (hcount hn (by omega)), toText_textOf]
    simp only [Except.map, String.toList_ofList]
    rw [Text.splice_middle, textOf_toList]
  · refine ⟨_, mid_of_counts hv (hcount (by omega) (by omega)) (hcount hn hmax), ?_⟩
    rw [left_of_count hv (hcount hn hmax), Text.middle_one hn]
  · refine ⟨_, _, left_of_count hv (hcount hk (by omega)),
      right_of_count hv (hcount (by omega) (by omega)), ?_⟩
    rw [join_textOf_textOf, ← hlength,
      Text.leading_append_trailing hk (hlength ▸ hlast), textOf_toList]
  · refine ⟨_, _, left_of_count hv (hcount hn hmax), ?_, right_of_count hv (hcount hn hmax), ?_⟩
    · rw [length_textOf, Text.length_leading hn, hlength]
    · rw [length_textOf, Text.length_trailing hn, hlength]

/-- A span inside a text with a number in its place, the same span put back, a count past the end,
and a cut. -/
theorem part_laws_inside :
    (∃ length before behind,
      Function.length.applyTo? (Everyday.reader 2024) [.text "abcdef"] = some (.ok length) ∧
      Function.left.applyTo? (Everyday.reader 2024) [.text "abcdef", .integer (2 - 1)] =
        some (.ok before) ∧
      Function.mid.applyTo? (Everyday.reader 2024) [.text "abcdef", .integer (2 + 3), length] =
        some (.ok behind) ∧
      Function.replace.applyTo? (Everyday.reader 2024)
        [.text "abcdef", .integer 2, .integer 3, .integer 7] =
        some (Operator.join.apply before (.integer 7) >>= fun front =>
          Operator.join.apply front behind) ∧
      ((∃ t, (Value.integer 7).toText = .ok t) →
        ∃ front, Operator.join.apply before (.integer 7) = .ok front)) ∧
    (∃ part,
      Function.mid.applyTo? (Everyday.reader 2024) [.text "abcdef", .integer 2, .integer 3] =
        some (.ok part) ∧
      Function.replace.applyTo? (Everyday.reader 2024)
        [.text "abcdef", .integer 2, .integer 3, part] =
        some (.ok (.text "abcdef"))) ∧
    (∃ part,
      Function.mid.applyTo? (Everyday.reader 2024) [.text "abcdef", .integer 1, .integer 9] =
        some (.ok part) ∧
      Function.left.applyTo? (Everyday.reader 2024) [.text "abcdef", .integer 9] =
        some (.ok part)) ∧
    (∃ front back,
      Function.left.applyTo? (Everyday.reader 2024) [.text "abcdef", .integer 4] =
        some (.ok front) ∧
      Function.right.applyTo? (Everyday.reader 2024) [.text "abcdef", .integer (6 - 4)] =
        some (.ok back) ∧
      Operator.join.apply front back = .ok (.text "abcdef")) ∧
    (∃ front back,
      Function.left.applyTo? (Everyday.reader 2024) [.text "abcdef", .integer 9] =
        some (.ok front) ∧
      Function.length.applyTo? (Everyday.reader 2024) [front] = some (.ok (.integer (min 9 6))) ∧
      Function.right.applyTo? (Everyday.reader 2024) [.text "abcdef", .integer 9] =
        some (.ok back) ∧
      Function.length.applyTo? (Everyday.reader 2024) [back] =
        some (.ok (.integer (min 9 6)))) := by
  obtain ⟨hreplace, hback, hfirst, hcut, hlengths⟩ :=
    part_laws (Value.toText_text "abcdef") (.integer 7) (.inl rfl)
  exact ⟨hreplace 2 3 (by decide) (by decide) (by decide) (by decide),
    hback 2 3 (by decide) (by decide) (by decide), hfirst 9 (by decide) (by decide),
    hcut 4 (by decide) (by decide) (by decide), hlengths 9 (by decide) (by decide)⟩

end Function

end TableFormula
