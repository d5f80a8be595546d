import TableFormula.Proofs.Text.Printed
import TableFormula.Token.Scan

/-!
# How single words are scanned

Every lexeme can be written as a word, and the scanner reads the word as the lexeme if a blank or
nothing follows it.  The ways to write a lexeme are data with the proofs that they are well formed:
a `Literal` is digits with an optional fraction, a `Quoting` says which quote stands around a text
and before which characters of it a backslash stands.

**Which words need what follows.**  A literal, a sign or a name would go on with more of its kind,
so a blank has to come next.  A quoted text, a name in square brackets, a bracket and a comma end by
themselves.  The name of a function is read as such if an opening bracket follows; only `TRUE` and
`FALSE` would be something else without it.
-/

namespace TableFormula

open Text Number

/-! ## Characters of names -/

lemma printed_of_isNamePart {c : Char} (h : Lexeme.isNamePart c = true) : Printed c := by
  simp only [Lexeme.isNamePart, Lexeme.isNameStart, Bool.or_eq_true, beq_iff_eq] at h
  obtain (halpha | rfl) | hdigit := h
  · have hplace := toNat_of_isAlpha halpha
    constructor <;> omega
  · decide
  · exact printed_of_isDigit hdigit

/-- Characters of a kind are read as far as they go. -/
lemma span_append {p : Char → Bool} {cs rest : List Char} (hcs : ∀ c ∈ cs, p c = true)
    (hrest : ∀ c ∈ rest.head?, p c = false) :
    (cs ++ rest).takeWhile p = cs ∧ (cs ++ rest).dropWhile p = rest := by
  rw [List.takeWhile_append_of_pos hcs, List.dropWhile_append_of_pos hcs]
  rcases rest with _ | ⟨c, rest⟩
  · exact ⟨List.append_nil cs, rfl⟩
  · have hnot : ¬ p c = true := by simp [hrest c rfl]
    rw [List.takeWhile_cons_of_neg hnot, List.dropWhile_cons_of_neg hnot]
    exact ⟨List.append_nil cs, rfl⟩

/-- What ends a word: a blank, or nothing. -/
def Ends (rest : List Char) : Prop :=
  ∀ c ∈ rest.head?, isBlank c = true

namespace Ends

variable {rest : List Char}

lemma not_printed (h : Ends rest) : ∀ c ∈ rest.head?, ¬ Printed c := by
  intro c hc hprinted
  have hblank := h c hc
  rw [hprinted.isBlank_eq_false] at hblank
  cases hblank

/-- No more characters of a kind are read where a word ends. -/
lemma stops (h : Ends rest) {p : Char → Bool} (hp : ∀ c, p c = true → Printed c) :
    ∀ c ∈ rest.head?, p c = false := by
  intro c hc
  rw [Bool.eq_false_iff]
  exact fun hpc => h.not_printed c hc (hp c hpc)

end Ends

namespace Lexeme

/-! ## Literals -/

/-- A number literal: digits, a point with digits behind it, or both. -/
structure Literal where
  whole : List Char
  fraction : List Char
  isDigit_whole : ∀ c ∈ whole, c.isDigit = true
  isDigit_fraction : ∀ c ∈ fraction, c.isDigit = true
  ne_nil : ¬ (whole = [] ∧ fraction = [])

namespace Literal

/-- The characters of a literal. -/
def spelling (literal : Literal) : List Char :=
  literal.whole ++ if literal.fraction = [] then [] else '.' :: literal.fraction

/-- The number that a literal stands for. -/
def value (literal : Literal) : Float :=
  numberValue literal.whole literal.fraction

end Literal

/-- A point with a digit behind it, with which a fraction begins. -/
def StartsFraction (cs : List Char) : Prop :=
  ∃ d others, cs = '.' :: d :: others ∧ d.isDigit = true

lemma readFraction_eq_nil {rest : List Char} (h : ¬ StartsFraction rest) :
    readFraction rest = ([], rest) := by
  unfold readFraction
  split
  · rename_i others
    rw [if_pos]
    rcases others with _ | ⟨d, others⟩
    · rfl
    · exact List.takeWhile_cons_of_neg fun hd => h ⟨d, others, rfl, hd⟩
  · rfl

lemma not_startsFraction_of_ends {rest : List Char} (h : Ends rest) : ¬ StartsFraction rest := by
  rintro ⟨d, others, rfl, -⟩
  exact h.not_printed _ rfl (by decide)

section Digits

variable {digits rest : List Char} (hdigits : ∀ c ∈ digits, c.isDigit = true)

include hdigits

lemma spanDigits_append_of_stops (h : ∀ c ∈ rest.head?, c.isDigit = false) :
    spanDigits (digits ++ rest) = (digits, rest) := by
  obtain ⟨htake, hdrop⟩ := span_append hdigits h
  rw [spanDigits, htake, hdrop]

lemma spanDigits_point : spanDigits (digits ++ '.' :: rest) = (digits, '.' :: rest) :=
  spanDigits_append_of_stops hdigits fun c hc => by cases hc; decide

end Digits

/-- A literal is read as far as its digits go, and up to a point that begins no fraction. -/
lemma readNumber?_literal (literal : Literal) {rest : List Char}
    (hdigit : ∀ c ∈ rest.head?, c.isDigit = false)
    (hpoint : literal.fraction = [] → ¬ StartsFraction rest) :
    readNumber? (literal.spelling ++ rest) = some (literal.value, rest) := by
  obtain ⟨whole, fraction, hwhole, hfraction, hne⟩ := literal
  by_cases hnil : fraction = []
  · subst hnil
    have hne' : whole ≠ [] := fun hwhole => hne ⟨hwhole, rfl⟩
    simp [readNumber?, Literal.spelling, Literal.value, spanDigits_append_of_stops hwhole hdigit,
      readFraction_eq_nil (hpoint rfl), hne']
  · have hpoint : readFraction ('.' :: (fraction ++ rest)) = (fraction, rest) := by
      simp [readFraction, spanDigits_append_of_stops hfraction hdigit, hnil]
    simp [readNumber?, Literal.spelling, Literal.value, hnil, spanDigits_point hwhole, hpoint]

lemma read?_literal (literal : Literal) {rest : List Char} (h : Ends rest) :
    read? (literal.spelling ++ rest) = some (.number literal.value, rest) := by
  rw [read?.eq_def, readNumber?_literal literal (h.stops fun _ => printed_of_isDigit)
    fun _ => not_startsFraction_of_ends h]

/-- No number begins with a character that is neither a digit nor a point. -/
lemma readNumber?_eq_none {c : Char} (hdigit : c.isDigit = false) (hpoint : c ≠ '.')
    (rest : List Char) : readNumber? (c :: rest) = none := by
  have hspan : spanDigits (c :: rest) = ([], c :: rest) := by
    have hnot : ¬ c.isDigit = true := by simp [hdigit]
    rw [spanDigits, List.takeWhile_cons_of_neg hnot, List.dropWhile_cons_of_neg hnot]
  simp [readNumber?, hspan, readFraction, hpoint]

/-! ## Quoted texts -/

/-- A way to quote: the quote around a text, and the characters before which a backslash stands,
the backslash and the quote among them. -/
structure Quoting where
  quote : Char
  isQuote : quote = '"' ∨ quote = '\''
  escapes : Char → Bool
  escapes_quote : escapes quote = true
  escapes_backslash : escapes '\\' = true

namespace Quoting

/-- Double quotes, with a backslash only where there has to be one. -/
def double : Quoting where
  quote := '"'
  isQuote := .inl rfl
  escapes c := c == '"' || c == '\\'
  escapes_quote := rfl
  escapes_backslash := rfl

/-- The characters that stand for one character of a quoted text. -/
def escape (q : Quoting) (c : Char) : List Char :=
  if q.escapes c then ['\\', c] else [c]

/-- A quoted text with its quotes. -/
def spelling (q : Quoting) (text : List Char) : List Char :=
  q.quote :: (text.flatMap q.escape ++ [q.quote])

end Quoting

/-- Characters between quotes and the text that they stand for: a backslash takes the next character
as it is, and without one the quote does not stand among them. -/
inductive Escapes (quote : Char) : List Char → List Char → Prop where
  | nil : Escapes quote [] []
  | plain {c : Char} {written text : List Char} (hquote : c ≠ quote) (hbackslash : c ≠ '\\')
      (others : Escapes quote written text) : Escapes quote (c :: written) (c :: text)
  | escaped (c : Char) {written text : List Char} (others : Escapes quote written text) :
      Escapes quote ('\\' :: c :: written) (c :: text)

lemma Escapes.flatMap_escape (q : Quoting) (text : List Char) :
    Escapes q.quote (text.flatMap q.escape) text := by
  induction text with
  | nil => exact .nil
  | cons c text ih =>
    rw [List.flatMap_cons, Quoting.escape]
    split
    · exact .escaped c ih
    · rename_i hc
      refine .plain ?_ ?_ ih
      · rintro rfl
        exact hc q.escapes_quote
      · rintro rfl
        exact hc q.escapes_backslash

lemma ne_backslash_of_isQuote {quote : Char} (h : quote = '"' ∨ quote = '\'') :
    quote ≠ '\\' := by
  obtain rfl | rfl := h <;> decide

/-- Characters in front of a closing quote or of the end are read as the text they stand for. -/
lemma Escapes.readQuoted_append {quote : Char} {written text : List Char}
    (h : Escapes quote written text) (rest : List Char) :
    readQuoted quote (written ++ rest) =
      (text ++ (readQuoted quote rest).1, (readQuoted quote rest).2) := by
  induction h with
  | nil => rfl
  | plain hquote hbackslash _ ih => simp [readQuoted, hquote, hbackslash, ih]
  | escaped c _ ih => simp [readQuoted, ih]

lemma readQuoted_quote {quote : Char} (h : quote = '"' ∨ quote = '\'') (rest : List Char) :
    readQuoted quote (quote :: rest) = ([], rest) := by
  simp [readQuoted, ne_backslash_of_isQuote h]

/-- Behind a quote a quoted text is read. -/
lemma read?_quote {quote : Char} (h : quote = '"' ∨ quote = '\'') (cs : List Char) :
    read? (quote :: cs) =
      some (.string (String.ofList (readQuoted quote cs).1), (readQuoted quote cs).2) := by
  obtain rfl | rfl := h <;> rw [read?, readNumber?_eq_none (by decide) (by decide)]

lemma read?_quoted (q : Quoting) (text rest : List Char) :
    read? (q.spelling text ++ rest) = some (.string (String.ofList text), rest) := by
  have hspelling : q.spelling text ++ rest =
      q.quote :: (text.flatMap q.escape ++ q.quote :: rest) := by
    simp [Quoting.spelling]
  rw [hspelling, read?_quote q.isQuote, (Escapes.flatMap_escape q text).readQuoted_append,
    readQuoted_quote q.isQuote, List.append_nil]

/-! ## References and marks -/

/-- A reference is read as far as its bracket is not closed. -/
lemma read?_bracket {name rest : List Char} (h : ']' ∉ name)
    (hrest : ∀ c ∈ rest.head?, decide (c ≠ ']') = false) :
    read? ('[' :: (name ++ rest)) = some (.columnRef (String.ofList name), rest.drop 1) := by
  have hname : ∀ c ∈ name, decide (c ≠ ']') = true := by
    intro c hc
    rw [decide_eq_true_eq]
    rintro rfl
    exact h hc
  obtain ⟨htake, hdrop⟩ := span_append hname hrest
  rw [read?, readNumber?_eq_none (by decide) (by decide)]
  simp only [htake, hdrop]

lemma read?_bracketed {name : List Char} (h : ']' ∉ name) (rest : List Char) :
    read? ('[' :: (name ++ ']' :: rest)) = some (.columnRef (String.ofList name), rest) :=
  read?_bracket h fun c hc => by cases hc; decide

lemma read?_openParen (rest : List Char) : read? ('(' :: rest) = some (.openParen, rest) := by
  rw [read?, readNumber?_eq_none (by decide) (by decide)]

lemma read?_closeParen (rest : List Char) : read? (')' :: rest) = some (.closeParen, rest) := by
  rw [read?, readNumber?_eq_none (by decide) (by decide)]

lemma read?_comma (rest : List Char) : read? (',' :: rest) = some (.comma, rest) := by
  rw [read?, readNumber?_eq_none (by decide) (by decide)]

/-! ## Operators -/

/-- Whether a sign is complete, given what follows: the next character makes no longer sign of
it. -/
def Complete (op : Operator) (rest : List Char) : Prop :=
  ∀ c ∈ rest.head?, ∀ longer ∈ Operator.all, longer.symbol.toList ≠ op.symbol.toList ++ [c]

lemma printed_of_mem_symbol {op : Operator} (hop : op ∈ Operator.all) {c : Char}
    (hc : c ∈ op.symbol.toList) : Printed c := by
  have hsymbols : ∀ op ∈ Operator.all,
      op.symbol.toList.all (fun c => decide (Printed c)) = true := by decide
  exact of_decide_eq_true (List.all_eq_true.mp (hsymbols op hop) c hc)

lemma complete_of_ends (op : Operator) {rest : List Char} (h : Ends rest) : Complete op rest := by
  intro c hc longer hlonger hsymbol
  refine h.not_printed c hc (printed_of_mem_symbol hlonger ?_)
  rw [hsymbol]
  exact List.mem_append_right _ List.mem_cons_self

lemma readOperator?_symbol {op : Operator} (hop : op ∈ Operator.all) {rest : List Char}
    (h : Complete op rest) : readOperator? (op.symbol.toList ++ rest) = some (op, rest) := by
  rcases rest with _ | ⟨c, rest⟩
  · simp only [Operator.all, List.mem_cons, List.not_mem_nil, or_false] at hop
    rcases hop with rfl | rfl | rfl | rfl | rfl | rfl | rfl | rfl | rfl | rfl | rfl | rfl | rfl <;>
      rfl
  · have hlonger := h c rfl
    have hunequal : op = .less → c ≠ '>' := by
      rintro rfl rfl
      exact hlonger .unequal (by decide) rfl
    have hatMost : op = .less → c ≠ '=' := by
      rintro rfl rfl
      exact hlonger .atMost (by decide) rfl
    have hatLeast : op = .greater → c ≠ '=' := by
      rintro rfl rfl
      exact hlonger .atLeast (by decide) rfl
    simp only [Operator.all, List.mem_cons, List.not_mem_nil, or_false] at hop
    rcases hop with rfl | rfl | rfl | rfl | rfl | rfl | rfl | rfl | rfl | rfl | rfl | rfl | rfl <;>
      simp_all [Operator.symbol, readOperator?]

/-- A sign begins with a character that begins nothing else. -/
lemma exists_cons_symbol {op : Operator} (hop : op ∈ Operator.all) :
    ∃ c cs, op.symbol.toList = c :: cs ∧ c ∈ "+-*/%^&=<>".toList := by
  simp only [Operator.all, List.mem_cons, List.not_mem_nil, or_false] at hop
  rcases hop with rfl | rfl | rfl | rfl | rfl | rfl | rfl | rfl | rfl | rfl | rfl | rfl | rfl <;>
    exact ⟨_, _, rfl, by decide⟩

lemma readOperator?_eq_none {c : Char} (hc : c ∉ "+-*/%^&=<>".toList) (cs : List Char) :
    readOperator? (c :: cs) = none := by
  unfold readOperator?
  split <;> first | rfl | (rename_i heq; cases heq; exact absurd (by decide) hc)

/-- A sign is read where the next character does not go on with it. -/
lemma read?_sign {op : Operator} (hop : op ∈ Operator.all) {rest : List Char}
    (h : Complete op rest) : read? (op.symbol.toList ++ rest) = some (.operator op, rest) := by
  have hread := readOperator?_symbol hop h
  obtain ⟨c, cs, hcons, hc⟩ := exists_cons_symbol hop
  rw [hcons, List.cons_append] at hread ⊢
  have hc' : c = '+' ∨ c = '-' ∨ c = '*' ∨ c = '/' ∨ c = '%' ∨ c = '^' ∨ c = '&' ∨ c = '=' ∨
      c = '<' ∨ c = '>' := by
    simpa using hc
  rcases hc' with rfl | rfl | rfl | rfl | rfl | rfl | rfl | rfl | rfl | rfl <;>
    rw [read?, readNumber?_eq_none (by decide) (by decide)] <;> simp [hread]

lemma read?_symbol {op : Operator} (hop : op ∈ Operator.all) {rest : List Char} (h : Ends rest) :
    read? (op.symbol.toList ++ rest) = some (.operator op, rest) :=
  read?_sign hop (complete_of_ends op h)

/-! ## Names -/

lemma isNamePart_of_isNameStart {c : Char} (h : isNameStart c = true) : isNamePart c = true := by
  simp [isNamePart, h]

/-- What a name may begin with is no digit. -/
lemma isDigit_of_isNameStart {c : Char} (h : isNameStart c = true) : c.isDigit = false := by
  rw [Bool.eq_false_iff]
  intro hdigit
  have hplace := toNat_of_isDigit hdigit
  simp only [isNameStart, Bool.or_eq_true, beq_iff_eq] at h
  obtain halpha | rfl := h
  · have hplace' := toNat_of_isAlpha halpha
    omega
  · cases hdigit

/-- What a name begins with is no sign. -/
lemma not_mem_signs_of_isNameStart {c : Char} (h : isNameStart c = true) :
    c ∉ "+-*/%^&=<>".toList := by
  have hsigns : "+-*/%^&=<>".toList.all (fun d => !isNameStart d) = true := by decide
  intro hc
  simpa [h] using List.all_eq_true.mp hsigns c hc

/-- A name is read as far as characters of names go. -/
lemma read?_nameParts {c : Char} {cs rest : List Char} (hc : isNameStart c = true)
    (hcs : ∀ d ∈ cs, isNamePart d = true) (h : ∀ d ∈ rest.head?, isNamePart d = false) :
    read? (c :: (cs ++ rest)) = some (ofName (c :: cs) rest, rest) := by
  have hpoint : c ≠ '.' := by
    rintro rfl
    exact absurd hc (by decide)
  obtain ⟨htake, hdrop⟩ := span_append hcs h
  rw [read?, readNumber?_eq_none (isDigit_of_isNameStart hc) hpoint]
  · simp [readOperator?_eq_none (not_mem_signs_of_isNameStart hc), hc, htake, hdrop]
  -- None of the characters that begin something else may begin a name.
  all_goals
    rintro rfl
    exact absurd hc (by decide)

lemma read?_name {c : Char} {cs rest : List Char} (hc : isNameStart c = true)
    (hcs : ∀ d ∈ cs, isNamePart d = true) (h : Ends rest) :
    read? (c :: (cs ++ rest)) = some (ofName (c :: cs) rest, rest) :=
  read?_nameParts hc hcs (h.stops fun _ => printed_of_isNamePart)

/-- The names of the language begin like names and are written in capital letters. -/
lemma exists_cons_of_isFunctionName {name : String} (h : isFunctionName name = true) :
    ∃ c cs, name.toList = c :: cs ∧ isNameStart c = true ∧ (∀ d ∈ cs, isNamePart d = true) ∧
      name.toList.map Char.toUpper = name.toList := by
  have hnames : ∀ f : Function, ∃ c cs, f.name.toList = c :: cs ∧ isNameStart c = true ∧
      (∀ d ∈ cs, isNamePart d = true) ∧ f.name.toList.map Char.toUpper = f.name.toList := by
    intro f
    cases f <;> exact ⟨_, _, rfl, by decide, List.all_eq_true.mp (by decide), by decide⟩
  rw [isFunctionName, categoryOf?, Option.isSome_or, Bool.or_eq_true, Option.isSome_map] at h
  obtain h | h := h
  · obtain ⟨f, hf⟩ := Option.isSome_iff_exists.mp h
    rw [← Function.name_of_ofName? hf]
    exact hnames f
  · have hgrammar : name = "IF" ∨ name = "NOT" := by
      by_contra hother
      obtain ⟨hif, hnot⟩ := not_or.mp hother
      have hif' : (name == "IF") = false := by simpa using hif
      have hnot' : (name == "NOT") = false := by simpa using hnot
      simp [grammarNames, List.lookup_cons, hif', hnot'] at h
    obtain rfl | rfl := hgrammar <;>
      exact ⟨_, _, rfl, by decide, List.all_eq_true.mp (by decide), by decide⟩

/-- The name of a function is read as such before an opening bracket. -/
lemma read?_function {name : String} (hname : isFunctionName name = true) {rest : List Char}
    (h : Ends rest) (hrest : (trimStart rest).head? = some '(') :
    read? (name.toList ++ rest) = some (.function name, rest) := by
  obtain ⟨c, cs, hcons, hc, hcs, hcapitals⟩ := exists_cons_of_isFunctionName hname
  have hread := read?_name hc hcs h
  rw [hcons, List.cons_append, hread, ← hcons]
  simp [ofName, hcapitals, hname, hrest]

/-! ## What a lexeme begins with -/

lemma read?_of_not_printed {c : Char} (hc : ¬ Printed c) (cs : List Char) :
    read? (c :: cs) = none := by
  have hdigit : c.isDigit = false := by
    rw [Bool.eq_false_iff]
    exact fun hdigit => hc (printed_of_isDigit hdigit)
  have hpoint : c ≠ '.' := by
    rintro rfl
    exact hc (by decide)
  have hsign : c ∉ "+-*/%^&=<>".toList := by
    have hsigns : "+-*/%^&=<>".toList.all (fun d => decide (Printed d)) = true := by decide
    exact fun hmem => hc (of_decide_eq_true (List.all_eq_true.mp hsigns c hmem))
  have hstart : isNameStart c = false := by
    rw [Bool.eq_false_iff]
    exact fun hstart => hc (printed_of_isNamePart (isNamePart_of_isNameStart hstart))
  rw [read?, readNumber?_eq_none hdigit hpoint]
  · simp [readOperator?_eq_none hsign, hstart]
  -- The characters that begin something else are printed.
  all_goals
    rintro rfl
    exact hc (by decide)

/-- What is read as a lexeme begins with a printed character. -/
lemma exists_cons_of_read? {word rest : List Char} {x : Lexeme}
    (h : read? (word ++ rest) = some (x, rest)) : ∃ c cs, word = c :: cs ∧ Printed c := by
  rcases word with _ | ⟨c, cs⟩
  · exact absurd (length_read?_lt h) (Nat.lt_irrefl _)
  · refine ⟨c, cs, rfl, ?_⟩
    by_contra hc
    rw [List.cons_append, read?_of_not_printed hc] at h
    cases h

end Lexeme

/-! ## Words in a text -/

/-- A blank before a token is skipped. -/
lemma scanFrom_blank {c : Char} (hc : isBlank c = true) (position : Nat) (rest : List Char) :
    scanFrom position (c :: rest) = scanFrom (position + 1) rest := by
  rw [scanFrom, if_pos hc]

lemma scanFrom_blanks {blanks : List Char} (h : ∀ c ∈ blanks, isBlank c = true) (position : Nat)
    (rest : List Char) :
    scanFrom position (blanks ++ rest) = scanFrom (position + blanks.length) rest := by
  induction blanks generalizing position with
  | nil => rfl
  | cons c blanks ih =>
    rw [List.cons_append, scanFrom_blank (h c List.mem_cons_self),
      ih (fun d hd => h d (List.mem_cons_of_mem c hd)), List.length_cons]
    congr 1
    omega

/-- A word is one token, and scanning goes on after it. -/
lemma scanFrom_word {word rest : List Char} {x : Lexeme}
    (hread : Lexeme.read? (word ++ rest) = some (x, rest)) (position : Nat) :
    scanFrom position (word ++ rest) =
      ⟨x, position⟩ :: scanFrom (position + word.length) rest := by
  obtain ⟨c, cs, rfl, hprinted⟩ := Lexeme.exists_cons_of_read? hread
  rw [List.cons_append] at hread ⊢
  rw [scanFrom, if_neg (by simp [hprinted.isBlank_eq_false])]
  split
  · rename_i hnone
    rw [hread] at hnone
    cases hnone
  · rename_i y others hsome
    rw [hread] at hsome
    cases hsome
    have hlength : (c :: (cs ++ rest)).length - rest.length = (c :: cs).length := by
      simp only [List.length_cons, List.length_append]
      omega
    rw [hlength]

/-- The lexemes of a text. -/
def scanned (cs : List Char) : List Lexeme :=
  (scanFrom 0 cs).map Token.lexeme

/-- The lexemes do not depend on where a text begins. -/
lemma map_lexeme_scanFrom (position : Nat) (cs : List Char) :
    (scanFrom position cs).map Token.lexeme = scanned cs := by
  have h : ∀ other, (scanFrom position cs).map Token.lexeme =
      (scanFrom other cs).map Token.lexeme := by
    fun_induction scanFrom position cs with
    | case1 position => exact fun other => by rw [scanFrom]
    | case2 position c tail hc ih =>
      intro other
      rw [scanFrom_blank hc]
      exact ih (other + 1)
    | case3 position c tail hc hnone ih =>
      intro other
      rw [scanFrom, if_neg hc]
      split
      · exact ih (other + 1)
      · rename_i hsome
        rw [hnone] at hsome
        cases hsome
    | case4 position c tail hc x rest hsome ih =>
      intro other
      rw [scanFrom, if_neg hc]
      split
      · rename_i hnone
        rw [hsome] at hnone
        cases hnone
      · rename_i hsome'
        rw [hsome] at hsome'
        cases hsome'
        rw [List.map_cons, List.map_cons, ih (other + ((c :: tail).length - rest.length))]
  exact h 0

lemma scanned_blank {c : Char} (hc : isBlank c = true) (rest : List Char) :
    scanned (c :: rest) = scanned rest := by
  rw [scanned, scanFrom_blank hc, map_lexeme_scanFrom]

lemma scanned_word {word rest : List Char} {x : Lexeme}
    (hread : Lexeme.read? (word ++ rest) = some (x, rest)) :
    scanned (word ++ rest) = x :: scanned rest := by
  rw [scanned, scanFrom_word hread, List.map_cons, map_lexeme_scanFrom]

/-- Words with a space before each are scanned as some lexemes, where the last of them may end. -/
def Spells (words : List (List Char)) (w : List Lexeme) : Prop :=
  ∀ rest, Ends rest → scanned (words.flatMap (' ' :: ·) ++ rest) = w ++ scanned rest

namespace Spells

lemma nil : Spells [] [] :=
  fun _ _ => rfl

lemma ends_append (words : List (List Char)) {rest : List Char} (h : Ends rest) :
    Ends (words.flatMap (' ' :: ·) ++ rest) := by
  rcases words with _ | ⟨word, words⟩
  · exact h
  · intro c hc
    cases hc
    decide

lemma append {words words' : List (List Char)} {w w' : List Lexeme} (h : Spells words w)
    (h' : Spells words' w') : Spells (words ++ words') (w ++ w') := by
  intro rest hrest
  rw [List.flatMap_append, List.append_assoc, h _ (ends_append words' hrest), h' rest hrest,
    List.append_assoc]

/-- A word that is read wherever a word may end. -/
lemma word {word : List Char} {x : Lexeme}
    (hread : ∀ rest, Ends rest → Lexeme.read? (word ++ rest) = some (x, rest)) :
    Spells [word] [x] := by
  intro rest hrest
  rw [List.flatMap_singleton, List.cons_append, scanned_blank (by decide),
    scanned_word (hread rest hrest), List.singleton_append]

/-- The name of a function and the bracket behind it. -/
lemma function {name : String} (hname : isFunctionName name = true) :
    Spells [name.toList, ['(']] [.function name, .openParen] := by
  intro rest hrest
  have hends : Ends (' ' :: (['('] ++ rest)) := by
    intro c hc
    cases hc
    decide
  have hread := Lexeme.read?_function hname hends rfl
  have hparen : Lexeme.read? (['('] ++ rest) = some (.openParen, rest) :=
    Lexeme.read?_openParen rest
  have htext : [name.toList, ['(']].flatMap (' ' :: ·) ++ rest =
      ' ' :: (name.toList ++ ' ' :: (['('] ++ rest)) := by
    simp
  rw [htext, scanned_blank (by decide), scanned_word hread, scanned_blank (by decide),
    scanned_word hparen]
  rfl

lemma flatMap_space (word : List Char) (words : List (List Char)) :
    (word :: words).flatMap (' ' :: ·) = ' ' :: [' '].intercalate (word :: words) := by
  induction words generalizing word with
  | nil => simp [List.intercalate]
  | cons other words ih =>
    rw [List.flatMap_cons, ih other, List.intercalate_cons_cons]
    simp

/-- Words with one space between them are scanned as words with a space before each. -/
lemma scanned_intercalate {words : List (List Char)} {w : List Lexeme} (h : Spells words w) :
    scanned ([' '].intercalate words) = w := by
  have hall := h [] nofun
  have hnil : scanned [] = [] := by
    rw [scanned, scanFrom]
    rfl
  rw [hnil, List.append_nil, List.append_nil] at hall
  rcases words with _ | ⟨word, words⟩
  · exact hall
  · rw [flatMap_space, scanned_blank (by decide)] at hall
    exact hall

end Spells

end TableFormula
