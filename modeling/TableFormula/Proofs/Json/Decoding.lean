import TableFormula.Json.Reader
import TableFormula.Json.Writer
import TableFormula.Proofs.Number.Written

/-!
# Written data are read back

A piece of data without fractions reads back from its text, whatever follows the text, unless that
goes on with a number (`readValue?_chars`).  The text stands on one line: no character below the
blank occurs in it (`onOneLine_chars`).

The reader counts its steps.  Each of them takes a character, so the length of the text is enough.
-/

namespace TableFormula.Json

open Number

/-! ## Data without fractions -/

mutual

/-- Whether no number is a fraction. -/
def isWhole : Json → Bool
  | float _ => false
  | array items => allWhole items
  | object members => membersWhole members
  | null | bool _ | integer _ | string _ => true

/-- Whether no number of an array is a fraction. -/
def allWhole : List Json → Bool
  | [] => true
  | item :: items => item.isWhole && allWhole items

/-- Whether no number of an object is a fraction. -/
def membersWhole : List (String × Json) → Bool
  | [] => true
  | (_, value) :: members => value.isWhole && membersWhole members

end

/-! ## Marks -/

/-- Whether a character is skipped between pieces of data. -/
def isSkipped (c : Char) : Bool :=
  c == ' ' || c == '\t' || c == '\n' || c == '\r'

/-- Whether a piece of data without fractions can begin with a character. -/
def isFirst (c : Char) : Bool :=
  ['n', 't', 'f', '"', '[', '{', '-'].contains c || c.isDigit

/-- A text that a number in front of it does not run into: it is at its end or begins with a mark
between pieces of data. -/
def Ends (cs : List Char) : Prop :=
  ∀ c ∈ cs.head?, c ∈ [',', ']', '}']

lemma Ends.nil : Ends [] := nofun

lemma Ends.cons {c : Char} (h : c ∈ [',', ']', '}']) (cs : List Char) : Ends (c :: cs) := by
  intro c' hc
  cases hc
  exact h

lemma skipBlanks_cons {c : Char} (h : isSkipped c = false) (cs : List Char) :
    skipBlanks (c :: cs) = c :: cs :=
  List.dropWhile_cons_of_neg (by simpa [isSkipped] using h)

lemma mark?_cons (c : Char) {d : Char} (h : isSkipped d = false) (cs : List Char) :
    mark? c (d :: cs) = if c = d then some cs else none := by
  rw [mark?, skipBlanks_cons h]

lemma isSkipped_of_isFirst {c : Char} (h : isFirst c = true) : isSkipped c = false := by
  by_contra hskip
  simp only [isSkipped, Bool.not_eq_false, Bool.or_eq_true, beq_iff_eq] at hskip
  rcases hskip with ((rfl | rfl) | rfl) | rfl <;> cases h

/-! ## Whole numbers -/

/-- Only zero is written with a zero in front. -/
lemma head?_decimalDigits {n : ℕ} (hn : n ≠ 0) : (decimalDigits n).head? ≠ some '0' := by
  induction n using Nat.strong_induction_on with
  | _ n ih =>
    by_cases hsmall : n < 10
    · have hdigits : ∀ d : Fin 10, d.val ≠ 0 → [d.val.digitChar].head? ≠ some '0' := by decide
      rw [decimalDigits, Nat.toDigits_of_lt_base hsmall]
      exact hdigits ⟨n, hsmall⟩ hn
    · have hten : 10 ≤ n := Nat.le_of_not_lt hsmall
      have hpos : n / 10 ≠ 0 := by omega
      have hsplit : decimalDigits n = decimalDigits (n / 10) ++ [(n % 10).digitChar] :=
        Nat.toDigits_of_base_le (by decide) hten
      rw [hsplit, List.head?_append_of_ne_nil _ (decimalDigits_ne_nil _)]
      exact ih (n / 10) (by omega) hpos

lemma isWholePart_decimalDigits (n : ℕ) : isWholePart (decimalDigits n) = true := by
  by_cases hn : n = 0
  · rw [hn]
    rfl
  · have hhead := head?_decimalDigits hn
    obtain ⟨c, cs, hcs⟩ := List.exists_cons_of_ne_nil (decimalDigits_ne_nil n)
    rw [hcs, List.head?_cons, ne_eq, Option.some.injEq] at hhead
    rw [hcs, isWholePart]
    · simpa using hhead
    · rintro rfl
      exact fun _ => hhead rfl

/-- The digits of a number are read as far as they go. -/
lemma spanDigits_decimalDigits_append (n : ℕ) {rest : List Char} (hrest : Ends rest) :
    spanDigits (decimalDigits n ++ rest) = (decimalDigits n, rest) := by
  have hspan : spanDigits rest = ([], rest) := by
    cases rest with
    | nil => rfl
    | cons c cs =>
      have hc : c.isDigit = false := by
        have hmark := hrest c rfl
        simp only [List.mem_cons, List.not_mem_nil, or_false] at hmark
        rcases hmark with rfl | rfl | rfl <;> rfl
      simp [spanDigits, hc]
  simpa using spanDigits_digits_append (isDigit_of_mem_decimalDigits n) hspan

/-- A number does not go on behind a mark. -/
lemma goesOn_eq_false {rest : List Char} (hrest : Ends rest) : goesOn rest = false := by
  cases rest with
  | nil => rfl
  | cons c cs =>
    have hmark := hrest c rfl
    simp only [List.mem_cons, List.not_mem_nil, or_false] at hmark
    have hpoint : digitAfter '.' (c :: cs) = false := by
      rcases hmark with rfl | rfl | rfl <;> cases cs <;> rfl
    have hexponent : readExponent (c :: cs) = (0, c :: cs) := by
      rcases hmark with rfl | rfl | rfl <;> rfl
    rw [goesOn, hpoint, hexponent]
    simp

lemma readNumber?_integerText (n : ℤ) {rest : List Char} (hrest : Ends rest) :
    readNumber? (integerText n ++ rest) = some (integer n, rest) := by
  have hspan := spanDigits_decimalDigits_append n.natAbs hrest
  have hwhole := isWholePart_decimalDigits n.natAbs
  have hon := goesOn_eq_false hrest
  have hnat := natOf_decimalDigits n.natAbs
  by_cases hn : n < 0
  · have hvalue : -((n.natAbs : ℕ) : ℤ) = n := by omega
    simp only [readNumber?, integerText, if_pos hn, List.cons_append, hspan, hwhole, hon, hnat,
      hvalue, Bool.not_true, Bool.false_eq_true, if_true, if_false]
  · have hvalue : ((n.natAbs : ℕ) : ℤ) = n := by omega
    have hsign : ∀ cs, decimalDigits n.natAbs ++ rest ≠ '-' :: cs := by
      intro cs hcs
      obtain ⟨c, ds, hds⟩ := List.exists_cons_of_ne_nil (decimalDigits_ne_nil n.natAbs)
      have hdigit := isDigit_of_mem_decimalDigits n.natAbs c (by simp [hds])
      rw [hds, List.cons_append, List.cons.injEq] at hcs
      rw [hcs.1] at hdigit
      cases hdigit
    rw [integerText, if_neg hn, readNumber?]
    · simp only [hspan, hwhole, hon, hnat, hvalue, Bool.not_true, Bool.false_eq_true, if_false]
    · exact hsign

/-! ## Data -/

/-- The text of a piece of data shows with its first character what follows. -/
lemma exists_chars_eq_cons (data : Json) (hdata : data.isWhole = true) :
    ∃ c cs, data.chars = c :: cs ∧ isFirst c = true := by
  cases data with
  | null => exact ⟨_, _, rfl, rfl⟩
  | bool b => cases b <;> exact ⟨_, _, rfl, rfl⟩
  | integer n =>
    rw [chars, integerText]
    split
    · exact ⟨_, _, rfl, rfl⟩
    · obtain ⟨c, cs, hcs⟩ := List.exists_cons_of_ne_nil (decimalDigits_ne_nil n.natAbs)
      have hdigit := isDigit_of_mem_decimalDigits n.natAbs c (by simp [hcs])
      exact ⟨c, cs, hcs, by simp [isFirst, hdigit]⟩
  | float x => cases hdata
  | string s => exact ⟨_, _, rfl, rfl⟩
  | array items => cases items <;> exact ⟨_, _, rfl, rfl⟩
  | object members =>
    cases members with
    | nil => exact ⟨_, _, rfl, rfl⟩
    | cons member members => exact ⟨_, _, rfl, rfl⟩

lemma ends_charsAll (items : List Json) (rest : List Char) : Ends (charsAll items ++ rest) := by
  cases items with
  | nil => exact .cons (by decide) _
  | cons item items => exact .cons (by decide) _

lemma ends_charsMembers (members : List (String × Json)) (rest : List Char) :
    Ends (charsMembers members ++ rest) := by
  cases members with
  | nil => exact .cons (by decide) _
  | cons member members => exact .cons (by decide) _

lemma readKey?_quoted (key : String) (rest : List Char) :
    readKey? (quoted key.toList ++ ':' :: rest) = some (key, rest) := by
  have hquoted : quoted key.toList = '"' :: (quoted key.toList).drop 1 := rfl
  have hkey := readQuoted?_quoted key.toList (':' :: rest)
  have hcolon : mark? ':' (':' :: rest) = some rest := mark?_cons ':' rfl rest
  rw [readKey?, hquoted, List.cons_append, mark?_cons _ rfl, if_pos rfl]
  simp only [Option.bind_eq_bind, Option.bind_some, hkey, hcolon, Option.pure_def,
    String.ofList_toList]

/-- A number is read where no other piece of data begins. -/
lemma readValue?_integer (n : ℤ) (fuel : ℕ) {rest : List Char} (hrest : Ends rest) :
    readValue? (fuel + 1) (integerText n ++ rest) = some (integer n, rest) := by
  have hnumber := readNumber?_integerText n hrest
  have hfirst : ∃ c cs, integerText n ++ rest = c :: cs ∧ (c = '-' ∨ c.isDigit = true) := by
    rw [integerText]
    split
    · exact ⟨_, _, rfl, .inl rfl⟩
    · obtain ⟨c, cs, hcs⟩ := List.exists_cons_of_ne_nil (decimalDigits_ne_nil n.natAbs)
      have hdigit := isDigit_of_mem_decimalDigits n.natAbs c (by simp [hcs])
      exact ⟨c, cs ++ rest, by rw [hcs, List.cons_append], .inr hdigit⟩
  obtain ⟨c, cs, hcs, hc⟩ := hfirst
  have hskipped : isSkipped c = false := isSkipped_of_isFirst (by
    rcases hc with rfl | hc
    · rfl
    · simp [isFirst, hc])
  rw [hcs] at hnumber ⊢
  rw [readValue?, skipBlanks_cons hskipped]
  split
  case h_7 => exact hnumber
  all_goals
    rename_i heq
    cases heq
    exact absurd hc (by decide)

/-- The items of an array stand behind one another as they do behind a first item. -/
lemma chars_array (item : Json) (items : List Json) :
    (array (item :: items)).chars = '[' :: (charsAll (item :: items)).drop 1 :=
  rfl

lemma chars_object (member : String × Json) (members : List (String × Json)) :
    (object (member :: members)).chars = '{' :: (charsMembers (member :: members)).drop 1 :=
  rfl

lemma length_charsAll_pos (items : List Json) : 0 < (charsAll items).length := by
  cases items with
  | nil => exact Nat.one_pos
  | cons item items => exact Nat.succ_pos _

lemma length_charsMembers_pos (members : List (String × Json)) :
    0 < (charsMembers members).length := by
  cases members with
  | nil => exact Nat.one_pos
  | cons member members => exact Nat.succ_pos _

mutual

/-- **Reading back.**  A piece of data without fractions reads back from its text, if what follows
is no part of a number. -/
lemma readValue?_chars : (data : Json) → data.isWhole = true → ∀ (fuel : ℕ) (rest : List Char),
    data.chars.length < fuel → Ends rest → readValue? fuel (data.chars ++ rest) = some (data, rest)
  | null, _, fuel + 1, rest, _, _ => by
    rw [chars, List.cons_append, readValue?, skipBlanks_cons rfl]
    rfl
  | bool true, _, fuel + 1, rest, _, _ => by
    rw [chars, List.cons_append, readValue?, skipBlanks_cons rfl]
    rfl
  | bool false, _, fuel + 1, rest, _, _ => by
    rw [chars, List.cons_append, readValue?, skipBlanks_cons rfl]
    rfl
  | integer n, _, fuel + 1, rest, _, hrest => readValue?_integer n fuel hrest
  | string s, _, fuel + 1, rest, _, _ => by
    have hquoted : quoted s.toList = '"' :: (quoted s.toList).drop 1 := rfl
    rw [chars, hquoted, List.cons_append, readValue?, skipBlanks_cons rfl]
    simp only [readQuoted?_quoted, Option.map_some, String.ofList_toList]
  | array [], _, fuel + 1, rest, _, _ => by
    rw [chars, List.cons_append, readValue?, skipBlanks_cons rfl]
    rfl
  | array (item :: items), hdata, fuel + 1, rest, hfuel, _ => by
    have hitem : item.isWhole = true := (Bool.and_eq_true_iff.mp hdata).1
    obtain ⟨c, cs, hcs, hc⟩ := exists_chars_eq_cons item hitem
    have hlength : (charsAll (item :: items)).length ≤ fuel := Nat.le_of_lt_succ hfuel
    have hitems := readItems?_charsAll (item :: items) (List.cons_ne_nil _ _) hdata fuel rest
      hlength
    have hclose : mark? ']' ((charsAll (item :: items)).drop 1 ++ rest) = none := by
      have hne : ']' ≠ c := by
        rintro rfl
        cases hc
      have htext : (charsAll (item :: items)).drop 1 = c :: (cs ++ charsAll items) := by
        rw [charsAll, List.cons_append, List.drop_one, List.tail_cons, hcs, List.cons_append]
      rw [htext, List.cons_append, mark?_cons _ (isSkipped_of_isFirst hc), if_neg hne]
    rw [chars_array, List.cons_append, readValue?, skipBlanks_cons rfl]
    simp only [hclose, hitems, Option.map_some]
  | object [], _, fuel + 1, rest, _, _ => by
    rw [chars, List.cons_append, readValue?, skipBlanks_cons rfl]
    rfl
  | object (member :: members), hdata, fuel + 1, rest, hfuel, _ => by
    have hlength : (charsMembers (member :: members)).length ≤ fuel := Nat.le_of_lt_succ hfuel
    have hmembers := readMembers?_charsMembers (member :: members) (List.cons_ne_nil _ _) hdata
      fuel rest hlength
    have hclose : mark? '}' ((charsMembers (member :: members)).drop 1 ++ rest) = none :=
      mark?_cons _ rfl _
    rw [chars_object, List.cons_append, readValue?, skipBlanks_cons rfl]
    simp only [hclose, hmembers, Option.map_some]

/-- Items are read up to the end of their array. -/
lemma readItems?_charsAll : (items : List Json) → items ≠ [] → allWhole items = true →
    ∀ (fuel : ℕ) (rest : List Char), (charsAll items).length ≤ fuel →
      readItems? fuel ((charsAll items).drop 1 ++ rest) = some (items, rest)
  | item :: items, _, hitems, 0, rest, hfuel => absurd hfuel (by simp [charsAll])
  | item :: items, _, hitems, fuel + 1, rest, hfuel => by
    obtain ⟨hitem, hmore⟩ := Bool.and_eq_true_iff.mp hitems
    have hlength : item.chars.length + (charsAll items).length ≤ fuel := by
      simpa [charsAll] using hfuel
    have hpos := length_charsAll_pos items
    have hread := readValue?_chars item hitem fuel _ (by omega) (ends_charsAll items rest)
    have htext : (charsAll (item :: items)).drop 1 ++ rest =
        item.chars ++ (charsAll items ++ rest) := by
      rw [charsAll, List.cons_append, List.drop_one, List.tail_cons, List.append_assoc]
    rw [htext, readItems?, hread]
    cases items with
    | nil => rfl
    | cons next items =>
      have hnext := readItems?_charsAll (next :: items) (List.cons_ne_nil _ _) hmore fuel rest
        (by omega)
      have hmark : mark? ',' (charsAll (next :: items) ++ rest) =
          some ((charsAll (next :: items)).drop 1 ++ rest) := mark?_cons ',' rfl _
      simp only [Option.bind_eq_bind, Option.bind_some, hmark, hnext, Option.pure_def]

/-- Members are read up to the end of their object. -/
lemma readMembers?_charsMembers : (members : List (String × Json)) → members ≠ [] →
    membersWhole members = true → ∀ (fuel : ℕ) (rest : List Char),
    (charsMembers members).length ≤ fuel →
      readMembers? fuel ((charsMembers members).drop 1 ++ rest) = some (members, rest)
  | member :: members, _, hmembers, 0, rest, hfuel => absurd hfuel (by simp [charsMembers])
  | (key, value) :: members, _, hmembers, fuel + 1, rest, hfuel => by
    obtain ⟨hvalue, hmore⟩ := Bool.and_eq_true_iff.mp hmembers
    have hlength : value.chars.length + (charsMembers members).length ≤ fuel := by
      simp [charsMembers] at hfuel
      omega
    have hpos := length_charsMembers_pos members
    have hread := readValue?_chars value hvalue fuel _ (by omega) (ends_charsMembers members rest)
    have htext : (charsMembers ((key, value) :: members)).drop 1 ++ rest =
        quoted key.toList ++ ':' :: (value.chars ++ (charsMembers members ++ rest)) := by
      simp [charsMembers]
    rw [htext, readMembers?, readKey?_quoted]
    simp only [Option.bind_eq_bind, Option.bind_some, hread]
    cases members with
    | nil => rfl
    | cons next members =>
      have hnext := readMembers?_charsMembers (next :: members) (List.cons_ne_nil _ _) hmore fuel
        rest (by omega)
      have hmark : mark? ',' (charsMembers (next :: members) ++ rest) =
          some ((charsMembers (next :: members)).drop 1 ++ rest) := mark?_cons ',' rfl _
      simp only [hmark, hnext, Option.bind_some, Option.pure_def]

end

/-- The text of a piece of data without fractions spells it. -/
theorem parse?_render {data : Json} (hdata : data.isWhole = true) :
    parse? data.render = some data := by
  have hread := readValue?_chars data hdata _ [] (Nat.lt_succ_self _) .nil
  rw [List.append_nil] at hread
  rw [parse?, render]
  simp only [String.toList_ofList, hread, Option.bind_eq_bind, Option.bind_some]
  rfl

/-! ## One line -/

/-- A text without control characters below the blank. -/
def OnOneLine (cs : List Char) : Prop :=
  ∀ c ∈ cs, 32 ≤ c.toNat

-- the characters of the text are looked at, and not all characters
instance (cs : List Char) : Decidable (OnOneLine cs) :=
  List.decidableBAll _ cs

namespace OnOneLine

lemma nil : OnOneLine [] := nofun

lemma cons {c : Char} {cs : List Char} (hc : 32 ≤ c.toNat) (hcs : OnOneLine cs) :
    OnOneLine (c :: cs) :=
  List.forall_mem_cons.mpr ⟨hc, hcs⟩

lemma append {cs ds : List Char} (hcs : OnOneLine cs) (hds : OnOneLine ds) :
    OnOneLine (cs ++ ds) :=
  List.forall_mem_append.mpr ⟨hcs, hds⟩

end OnOneLine

/-- Control characters are escaped, and what escapes them is on one line. -/
lemma onOneLine_escape (c : Char) : OnOneLine (escape c) := by
  have hdigit : ∀ d : Fin 16, 32 ≤ (hexDigit d).toNat := by decide
  unfold escape
  split
  · rename_i hc
    rcases hc with rfl | rfl <;> exact .cons (by decide) (.cons (by decide) .nil)
  · split
    · rename_i hcontrol
      unfold escapeControl
      split
      case h_6 =>
        have hhigh : c.toNat / 16 < 16 := by omega
        have hlow : c.toNat % 16 < 16 := by omega
        refine .cons (by decide) (.cons (by decide) (.cons (by decide) (.cons (by decide) ?_)))
        exact .cons (hdigit ⟨_, hhigh⟩) (.cons (hdigit ⟨_, hlow⟩) .nil)
      all_goals exact .cons (by decide) (.cons (by decide) .nil)
    · exact .cons (by omega) .nil

lemma onOneLine_quoted (cs : List Char) : OnOneLine (quoted cs) := by
  have hcs : OnOneLine (cs.flatMap escape) := by
    intro c hc
    obtain ⟨d, -, hd⟩ := List.mem_flatMap.mp hc
    exact onOneLine_escape d c hd
  exact (OnOneLine.cons (by decide) hcs).append (.cons (by decide) .nil)

lemma onOneLine_integerText (n : ℤ) : OnOneLine (integerText n) := by
  have hdigits : OnOneLine (decimalDigits n.natAbs) := by
    intro c hc
    have hdigit := isDigit_of_mem_decimalDigits _ c hc
    simp only [Char.isDigit, Bool.and_eq_true, decide_eq_true_eq] at hdigit
    exact Nat.le_trans (by decide) (UInt32.le_iff_toNat_le.mp hdigit.1)
  rw [integerText]
  split
  · exact .cons (by decide) hdigits
  · exact hdigits

mutual

/-- **One line.**  No control character occurs in the text of a piece of data. -/
lemma onOneLine_chars : (data : Json) → data.isWhole = true → OnOneLine data.chars
  | null, _ | bool true, _ | bool false, _ | array [], _ | object [], _ => by decide
  | integer n, _ => onOneLine_integerText n
  | string s, _ => onOneLine_quoted s.toList
  | array (item :: items), hdata => by
    obtain ⟨hitem, hitems⟩ := Bool.and_eq_true_iff.mp hdata
    exact .cons (by decide) ((onOneLine_chars item hitem).append (onOneLine_charsAll items hitems))
  | object ((key, value) :: members), hdata => by
    obtain ⟨hvalue, hmembers⟩ := Bool.and_eq_true_iff.mp hdata
    have hkey : OnOneLine ('{' :: quoted key.toList) :=
      .cons (by decide) (onOneLine_quoted key.toList)
    have hmember : OnOneLine ('{' :: quoted key.toList ++ ':' :: value.chars) :=
      hkey.append (.cons (by decide) (onOneLine_chars value hvalue))
    exact hmember.append (onOneLine_charsMembers members hmembers)

lemma onOneLine_charsAll : (items : List Json) → allWhole items = true →
    OnOneLine (charsAll items)
  | [], _ => .cons (by decide) .nil
  | item :: items, hitems => by
    obtain ⟨hitem, hmore⟩ := Bool.and_eq_true_iff.mp hitems
    exact .cons (by decide) ((onOneLine_chars item hitem).append (onOneLine_charsAll items hmore))

lemma onOneLine_charsMembers : (members : List (String × Json)) → membersWhole members = true →
    OnOneLine (charsMembers members)
  | [], _ => .cons (by decide) .nil
  | (key, value) :: members, hmembers => by
    obtain ⟨hvalue, hmore⟩ := Bool.and_eq_true_iff.mp hmembers
    have hkey : OnOneLine (',' :: quoted key.toList) :=
      .cons (by decide) (onOneLine_quoted key.toList)
    have hmember : OnOneLine (',' :: quoted key.toList ++ ':' :: value.chars) :=
      hkey.append (.cons (by decide) (onOneLine_chars value hvalue))
    exact hmember.append (onOneLine_charsMembers members hmore)

end

end TableFormula.Json
