import TableFormula.Proofs.Syntax.Words

/-!
# Texts that are laid out word by word

A formula can be written with any blanks around its words, with its names in any letter case and its
texts in either quote.  Whatever is chosen, the scanner gives back the lexemes that were written and
where each of them stands.

**Words and layouts.**  A `Word` is a way to write one lexeme; it holds the proofs that it is well
formed.  A `Layout` is words with blanks around them, at least one between any two.  Its tokens are
read off from it without the scanner: the lexeme of each word, at the number of characters
before it.

**What a word needs.**  A word is read as itself before a blank or at the end of the text.  Only the
words `TRUE` and `FALSE` also need to know what follows the blanks, since an opening bracket makes
functions of them.
-/

namespace TableFormula

open Text
open Lexeme (isNameStart isNamePart ofName)

/-! ## Letter case -/

/-- Some characters in capital letters. -/
def capitals (chars : List Char) : String :=
  String.ofList (chars.map Char.toUpper)

/-- Only letters have capital letters. -/
lemma toUpper_of_isAlpha_eq_false {c : Char} (h : c.isAlpha = false) : c.toUpper = c := by
  have hlower : ¬ ('a'.val ≤ c.val ∧ c.val ≤ 'z'.val) := by
    rintro ⟨hlow, hhigh⟩
    rw [isAlpha_eq, decide_eq_true hlow, decide_eq_true hhigh, Bool.and_self, Bool.or_true] at h
    cases h
  exact dif_neg hlower

lemma isNameStart_of_toUpper {c : Char} (h : isNameStart c.toUpper = true) :
    isNameStart c = true := by
  cases halpha : c.isAlpha with
  | true => simp [isNameStart, halpha]
  | false => rwa [toUpper_of_isAlpha_eq_false halpha] at h

lemma isNamePart_of_toUpper {c : Char} (h : isNamePart c.toUpper = true) :
    isNamePart c = true := by
  cases halpha : c.isAlpha with
  | true => simp [isNamePart, isNameStart, halpha]
  | false => rwa [toUpper_of_isAlpha_eq_false halpha] at h

/-- A name of the language is a name in any letter case. -/
lemma exists_cons_of_isFunctionName_capitals {chars : List Char}
    (h : isFunctionName (capitals chars) = true) :
    ∃ c cs, chars = c :: cs ∧ isNameStart c = true ∧ ∀ d ∈ cs, isNamePart d = true := by
  obtain ⟨c', cs', hcons, hstart, hparts, -⟩ := Lexeme.exists_cons_of_isFunctionName h
  rw [capitals, String.toList_ofList] at hcons
  obtain ⟨c, cs, rfl, rfl, rfl⟩ := List.map_eq_cons_iff.mp hcons
  exact ⟨c, cs, rfl, isNameStart_of_toUpper hstart, fun d hd =>
    isNamePart_of_toUpper (hparts _ (List.mem_map_of_mem hd))⟩

/-- The name of a truth value. -/
def truthName (value : Bool) : String :=
  if value then "TRUE" else "FALSE"

lemma isFunctionName_truthName (value : Bool) : isFunctionName (truthName value) = true := by
  cases value <;> decide

/-! ## What a name is -/

section Names

variable {chars rest : List Char}

/-- Whether an opening bracket comes next. -/
def Called (rest : List Char) : Prop :=
  (trimStart rest).head? = some '('

/-- What a name is depends on what follows it only by an opening bracket. -/
lemma ofName_congr {rest' : List Char} (h : Called rest ↔ Called rest') :
    ofName chars rest = ofName chars rest' := by
  have hcalled : ((trimStart rest).head? == some '(') = ((trimStart rest').head? == some '(') := by
    rw [Bool.eq_iff_iff, beq_iff_eq, beq_iff_eq]
    exact h
  rw [ofName, ofName, hcalled]

lemma ofName_truth {value : Bool} (hname : capitals chars = truthName value)
    (hcalled : ¬ Called rest) : ofName chars rest = .number (if value then 1.0 else 0.0) := by
  rw [Called] at hcalled
  rw [capitals] at hname
  cases value <;> simp [ofName, hname, truthName, hcalled]

/-- Only the names of the truth values are read by what comes next. -/
lemma ofName_of_forall_ne (hother : ∀ value, capitals chars ≠ truthName value) :
    ofName chars rest = if isFunctionName (capitals chars) then .function (capitals chars)
      else .identifier (String.ofList chars) := by
  unfold ofName
  exact (if_neg fun htrue => hother true htrue.1).trans
    (if_neg fun hfalse => hother false hfalse.1)

lemma ofName_function (hname : isFunctionName (capitals chars) = true)
    (hcalled : (∃ value, capitals chars = truthName value) → Called rest) :
    ofName chars rest = .function (capitals chars) := by
  by_cases htruth : ∃ value, capitals chars = truthName value
  · have hparen := hcalled htruth
    rw [Called] at hparen
    rw [capitals] at hname
    simp [ofName, capitals, hname, hparen]
  · rw [ofName_of_forall_ne (not_exists.mp htruth), if_pos hname]

lemma ofName_identifier (hname : isFunctionName (capitals chars) = false) :
    ofName chars rest = .identifier (String.ofList chars) := by
  have hother : ∀ value, capitals chars ≠ truthName value := by
    intro value htruth
    rw [htruth, isFunctionName_truthName] at hname
    cases hname
  rw [ofName_of_forall_ne hother, hname]
  rfl

end Names

/-! ## Words -/

/-- A way to write a lexeme. -/
inductive Word where
  | number (literal : Lexeme.Literal)
  /-- A number that is written as a truth value. -/
  | truth (value : Bool) (chars : List Char) (hname : capitals chars = truthName value)
  | string (quoting : Lexeme.Quoting) (text : List Char)
  /-- A name in square brackets. -/
  | columnRef (name : List Char) (hname : ']' ∉ name)
  | identifier (first : Char) (others : List Char) (hfirst : isNameStart first = true)
      (hothers : ∀ c ∈ others, isNamePart c = true)
      (hname : isFunctionName (capitals (first :: others)) = false)
  | function (chars : List Char) (hname : isFunctionName (capitals chars) = true)
  | operator (op : Operator) (hop : op ∈ Operator.all)
  | openParen
  | closeParen
  | comma

namespace Word

/-- The lexeme that a word is written for. -/
def lexeme : Word → Lexeme
  | number literal => .number literal.value
  | truth value _ _ => .number (if value then 1.0 else 0.0)
  | string _ text => .string (String.ofList text)
  | columnRef name _ => .columnRef (String.ofList name)
  | identifier first others _ _ _ => .identifier (String.ofList (first :: others))
  | function chars _ => .function (capitals chars)
  | operator op _ => .operator op
  | openParen => .openParen
  | closeParen => .closeParen
  | comma => .comma

/-- The characters of a word. -/
def spelling : Word → List Char
  | number literal => literal.spelling
  | truth _ chars _ => chars
  | string quoting text => quoting.spelling text
  | columnRef name _ => '[' :: (name ++ [']'])
  | identifier first others _ _ _ => first :: others
  | function chars _ => chars
  | operator op _ => op.symbol.toList
  | openParen => ['(']
  | closeParen => [')']
  | comma => [',']

/-- Whether a word is read as itself, given whether an opening bracket comes next: a truth value
must not be called, and a function that has the name of one has to be. -/
def Suits (word : Word) (called : Prop) : Prop :=
  match word with
  | truth _ _ _ => ¬ called
  | function chars _ => (∃ value, capitals chars = truthName value) → called
  | _ => True

/-- A word is read as its lexeme where a word may end. -/
lemma read?_spelling {word : Word} {rest : List Char} (hends : Ends rest)
    (hsuits : word.Suits (Called rest)) :
    Lexeme.read? (word.spelling ++ rest) = some (word.lexeme, rest) := by
  cases word with
  | number literal => exact Lexeme.read?_literal literal hends
  | truth value chars hname =>
    have hknown : isFunctionName (capitals chars) = true := by
      rw [hname, isFunctionName_truthName]
    obtain ⟨c, cs, rfl, hc, hcs⟩ := exists_cons_of_isFunctionName_capitals hknown
    rw [spelling, List.cons_append, Lexeme.read?_name hc hcs hends, ofName_truth hname hsuits]
    rfl
  | string quoting text => exact Lexeme.read?_quoted quoting text rest
  | columnRef name hname =>
    rw [spelling, List.cons_append, List.append_assoc]
    exact Lexeme.read?_bracketed hname rest
  | identifier first others hfirst hothers hname =>
    rw [spelling, List.cons_append, Lexeme.read?_name hfirst hothers hends, ofName_identifier hname]
    rfl
  | function chars hname =>
    obtain ⟨c, cs, rfl, hc, hcs⟩ := exists_cons_of_isFunctionName_capitals hname
    rw [spelling, List.cons_append, Lexeme.read?_name hc hcs hends, ofName_function hname hsuits]
    rfl
  | operator op hop => exact Lexeme.read?_symbol hop hends
  | openParen => exact Lexeme.read?_openParen rest
  | closeParen => exact Lexeme.read?_closeParen rest
  | comma => exact Lexeme.read?_comma rest

/-- A word begins with a printed character, and no other word with an opening bracket. -/
lemma exists_cons_spelling (word : Word) :
    ∃ c cs, word.spelling = c :: cs ∧ Printed c ∧ (c = '(' ↔ word = .openParen) := by
  obtain ⟨rest, hends, hsuits⟩ : ∃ rest, Ends rest ∧ word.Suits (Called rest) := by
    cases word with
    | function =>
      refine ⟨" (".toList, fun c hc => ?_, fun _ => rfl⟩
      cases hc
      decide
    | truth => exact ⟨[], nofun, nofun⟩
    | _ => exact ⟨[], nofun, trivial⟩
  have hread := read?_spelling hends hsuits
  obtain ⟨c, cs, hcons, hprinted⟩ := Lexeme.exists_cons_of_read? hread
  refine ⟨c, cs, hcons, hprinted, ?_, ?_⟩
  · rintro rfl
    rw [hcons, List.cons_append, Lexeme.read?_openParen] at hread
    cases word <;> first | rfl | cases hread
  · rintro rfl
    cases hcons
    rfl

end Word

/-! ## Layouts -/

/-- The characters of some words with blanks behind each. -/
def laidOut (items : List (Word × List Char)) : List Char :=
  items.flatMap fun item => item.1.spelling ++ item.2

/-- Whether the first of some words is an opening bracket. -/
def Opens (items : List (Word × List Char)) : Prop :=
  items.head?.map Prod.fst = some .openParen

/-- Words are spaced if blanks stand behind each, at least one between any two, and if each of them
is read as itself before the next. -/
inductive Spaced : List (Word × List Char) → Prop
  | nil : Spaced []
  | cons {word : Word} {blanks : List Char} {items : List (Word × List Char)}
      (hblanks : ∀ c ∈ blanks, isBlank c = true) (hbetween : items ≠ [] → blanks ≠ [])
      (hsuits : word.Suits (Opens items)) (hitems : Spaced items) :
      Spaced ((word, blanks) :: items)

/-- The tokens of words with blanks behind each, the first of them at some position. -/
def tokensFrom (position : Nat) : List (Word × List Char) → List Token
  | [] => []
  | (word, blanks) :: items =>
    ⟨word.lexeme, position⟩ ::
      tokensFrom (position + word.spelling.length + blanks.length) items

/-- Where blanks stand behind a word, an opening bracket comes next exactly if it is the next
word. -/
lemma called_append_laidOut {blanks : List Char} (hblanks : ∀ c ∈ blanks, isBlank c = true)
    (items : List (Word × List Char)) : Called (blanks ++ laidOut items) ↔ Opens items := by
  rw [Called, trimStart, List.dropWhile_append_of_pos hblanks]
  rcases items with _ | ⟨⟨word, others⟩, items⟩
  · simp [laidOut, Opens]
  · obtain ⟨c, cs, hcons, hprinted, hparen⟩ := word.exists_cons_spelling
    have hc : ¬ isBlank c = true := by simp [hprinted.isBlank_eq_false]
    have htext : laidOut ((word, others) :: items) = c :: (cs ++ others ++ laidOut items) := by
      simp [laidOut, hcons]
    rw [htext, List.dropWhile_cons_of_neg hc]
    simpa [Opens] using hparen

/-- A word ends where blanks stand behind it or no word follows. -/
lemma ends_append_laidOut {blanks : List Char} {items : List (Word × List Char)}
    (hblanks : ∀ c ∈ blanks, isBlank c = true) (hbetween : items ≠ [] → blanks ≠ []) :
    Ends (blanks ++ laidOut items) := by
  intro c hc
  rcases blanks with _ | ⟨d, blanks⟩
  · have hnil : items = [] := by
      by_contra hne
      exact hbetween hne rfl
    subst hnil
    cases hc
  · cases hc
    exact hblanks _ List.mem_cons_self

/-- Spaced words are scanned as themselves. -/
lemma scanFrom_laidOut {items : List (Word × List Char)} (h : Spaced items) (position : Nat) :
    scanFrom position (laidOut items) = tokensFrom position items := by
  induction h generalizing position with
  | nil =>
    rw [laidOut, List.flatMap_nil, scanFrom, tokensFrom]
  | @cons word blanks items hblanks hbetween hsuits _ ih =>
    have htext : laidOut ((word, blanks) :: items) =
        word.spelling ++ (blanks ++ laidOut items) := by
      simp [laidOut]
    have hends := ends_append_laidOut hblanks hbetween
    rw [← called_append_laidOut hblanks] at hsuits
    rw [htext, scanFrom_word (Word.read?_spelling hends hsuits), scanFrom_blanks hblanks, ih,
      tokensFrom]

/-- A formula that is laid out word by word. -/
structure Layout where
  /-- The blanks before the first word. -/
  margin : List Char
  /-- The words with the blanks behind each. -/
  items : List (Word × List Char)
  isBlank_margin : ∀ c ∈ margin, isBlank c = true
  spaced : Spaced items

namespace Layout

/-- The text of a layout. -/
def source (layout : Layout) : String :=
  String.ofList (layout.margin ++ laidOut layout.items)

/-- The tokens that are written in a layout, each where its word begins. -/
def tokens (layout : Layout) : List Token :=
  tokensFrom layout.margin.length layout.items

/-- **Scanning undoes writing.**  Whatever blanks, quotes and letter cases are chosen for some
lexemes, the scanner finds these lexemes where they were written, and the end at the end of the
text. -/
theorem scan_source (layout : Layout) :
    scan layout.source = ⟨layout.tokens, layout.source.length⟩ := by
  have htokens : scanFrom 0 layout.source.toList = layout.tokens := by
    rw [source, String.toList_ofList, scanFrom_blanks layout.isBlank_margin,
      scanFrom_laidOut layout.spaced, Nat.zero_add, tokens]
  rw [scan, htokens, String.length_toList]

/-- `TRUE` as a function and as a number, and a text with a quote in it. -/
def calledTruth : Layout where
  margin := [' ']
  items :=
    [(.function "True".toList (by decide), ['\t', ' ']),
      (.openParen, [' ']),
      (.string .double "5\"".toList, ['\n']),
      (.closeParen, [' ']),
      (.operator .atMost (by decide), [' ']),
      (.truth true "tRUE".toList rfl, [])]
  isBlank_margin := List.all_eq_true.mp rfl
  spaced := by
    refine .cons (List.all_eq_true.mp rfl) nofun (fun _ => rfl) ?_
    refine .cons (List.all_eq_true.mp rfl) nofun trivial ?_
    refine .cons (List.all_eq_true.mp rfl) nofun trivial ?_
    refine .cons (List.all_eq_true.mp rfl) nofun trivial ?_
    refine .cons (List.all_eq_true.mp rfl) nofun trivial ?_
    exact .cons nofun nofun nofun .nil

/-- The blanks behind a function do not hide that it is called. -/
theorem scan_calledTruth : scan " True\t ( \"5\\\"\"\n) <= tRUE" =
    ⟨[⟨.function "TRUE", 1⟩, ⟨.openParen, 7⟩, ⟨.string "5\"", 9⟩, ⟨.closeParen, 15⟩,
      ⟨.operator .atMost, 17⟩, ⟨.number 1.0, 20⟩], 24⟩ := by
  have hsource : calledTruth.source = " True\t ( \"5\\\"\"\n) <= tRUE" := by decide
  rw [← hsource, scan_source]
  rfl

end Layout

end TableFormula
