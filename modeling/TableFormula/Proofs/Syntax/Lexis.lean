import TableFormula.Proofs.Syntax.Layout

/-!
# What a lexeme takes up

Said without the scanner: the characters that a lexeme takes up in a text, whatever the text is.
Where a text is malformed, a quoted text or a reference takes up all characters that are left.

**Lexemes with what follows.**  How far a lexeme goes depends on what follows it, so `Covers` speaks
of both: a literal, a sign or a name goes as far as it can, and the names of the truth values are
names of functions before an opening bracket.

**Dropped characters.**  A character at which no lexeme begins is dropped.  The `Significant`
characters are the others; whether a point is one depends on the next character.

The scanner reads the lexemes that are described here and no others (`read?_eq_some_iff`).  It reads
one at every significant character (`Significant.begins`) and none elsewhere
(`read?_of_not_significant`).
-/

namespace TableFormula

namespace Lexeme

variable {x y : Lexeme} {cs word word' rest rest' : List Char}

/-- A lexeme, the characters that it takes up, and the characters that follow. -/
inductive Covers : Lexeme → List Char → List Char → Prop where
  | number (literal : Literal) {rest : List Char} (hdigit : ∀ c ∈ rest.head?, c.isDigit = false)
      (hpoint : literal.fraction = [] → ¬ StartsFraction rest) :
      Covers (.number literal.value) literal.spelling rest
  | quoted {quote : Char} (hquote : quote = '"' ∨ quote = '\'') {written text : List Char}
      (hescapes : Escapes quote written text) (rest : List Char) :
      Covers (.string (String.ofList text)) (quote :: (written ++ [quote])) rest
  /-- A quoted text without its closing quote. -/
  | unquoted {quote : Char} (hquote : quote = '"' ∨ quote = '\'') {written text : List Char}
      (hescapes : Escapes quote written text) :
      Covers (.string (String.ofList text)) (quote :: written) []
  /-- A backslash at the end of the text has nothing to take and counts itself. -/
  | unescaped {quote : Char} (hquote : quote = '"' ∨ quote = '\'') {written text : List Char}
      (hescapes : Escapes quote written text) :
      Covers (.string (String.ofList (text ++ ['\\']))) (quote :: (written ++ ['\\'])) []
  | bracketed {name : List Char} (hname : ']' ∉ name) (rest : List Char) :
      Covers (.columnRef (String.ofList name)) ('[' :: (name ++ [']'])) rest
  /-- A reference without its closing bracket. -/
  | unbracketed {name : List Char} (hname : ']' ∉ name) :
      Covers (.columnRef (String.ofList name)) ('[' :: name) []
  | openParen (rest : List Char) : Covers .openParen ['('] rest
  | closeParen (rest : List Char) : Covers .closeParen [')'] rest
  | comma (rest : List Char) : Covers .comma [','] rest
  | operator {op : Operator} (hop : op ∈ Operator.all) {rest : List Char}
      (hcomplete : Complete op rest) : Covers (.operator op) op.symbol.toList rest
  | name {c : Char} {cs rest : List Char} (hstart : isNameStart c = true)
      (hparts : ∀ d ∈ cs, isNamePart d = true) (hend : ∀ d ∈ rest.head?, isNamePart d = false) :
      Covers (ofName (c :: cs) rest) (c :: cs) rest

/-- The signs with which a lexeme begins. -/
def marks : List Char :=
  "\"'[(),+-*/%^&=<>".toList

lemma mem_marks {c : Char} :
    c ∈ marks ↔ c ∈ "\"'[(),".toList ∨ c ∈ "+-*/%^&=<>".toList := by
  have hsplit : marks = "\"'[(),".toList ++ "+-*/%^&=<>".toList := by decide
  rw [hsplit, List.mem_append]

/-- Whether a lexeme begins at a character, given the next one. -/
def Significant (c : Char) (next : Option Char) : Prop :=
  isNamePart c = true ∨ c ∈ marks ∨ c = '.' ∧ ∃ d ∈ next, d.isDigit = true

/-! ## Lexemes are read -/

/-- What a lexeme takes up is read as the lexeme. -/
lemma Covers.read?_eq (h : Covers x word rest) : read? (word ++ rest) = some (x, rest) := by
  cases h with
  | number literal hdigit hpoint =>
    rw [read?.eq_def, readNumber?_literal literal hdigit hpoint]
  | quoted hquote hescapes =>
    rw [List.cons_append, read?_quote hquote, List.append_assoc, hescapes.readQuoted_append,
      List.singleton_append, readQuoted_quote hquote, List.append_nil]
  | unquoted hquote hescapes =>
    rw [List.cons_append, read?_quote hquote, hescapes.readQuoted_append]
    simp [readQuoted]
  | unescaped hquote hescapes =>
    have hbackslash := (ne_backslash_of_isQuote hquote).symm
    rw [List.cons_append, read?_quote hquote, List.append_assoc, hescapes.readQuoted_append]
    simp [readQuoted, hbackslash]
  | bracketed hname =>
    rw [List.cons_append, List.append_assoc]
    exact read?_bracketed hname rest
  | unbracketed hname => exact read?_bracket hname fun c hc => by cases hc
  | openParen => exact read?_openParen rest
  | closeParen => exact read?_closeParen rest
  | comma => exact read?_comma rest
  | operator hop hcomplete => exact read?_sign hop hcomplete
  | name hstart hparts hend => exact read?_nameParts hstart hparts hend

/-! ## A lexeme begins at every significant character -/

/-- Whether a text begins with what a lexeme takes up there. -/
def Begins (cs : List Char) : Prop :=
  ∃ x word rest, cs = word ++ rest ∧ Covers x word rest

lemma head?_dropWhile_eq_false (p : Char → Bool) (cs : List Char) :
    ∀ c ∈ (cs.dropWhile p).head?, p c = false := by
  intro c hc
  have hnot := List.head?_dropWhile_not p cs
  rw [Option.mem_def.mp hc] at hnot
  simpa using hnot

lemma mem_takeWhile (p : Char → Bool) (cs : List Char) : ∀ c ∈ cs.takeWhile p, p c = true :=
  List.all_eq_true.mp List.all_takeWhile

/-- Digits, a point with digits behind it, or both are a literal. -/
lemma begins_of_digits (whole : List Char) {rest : List Char}
    (hwhole : ∀ c ∈ whole, c.isDigit = true)
    (hrest : ∀ c ∈ rest.head?, c.isDigit = false) (hne : whole = [] → StartsFraction rest) :
    Begins (whole ++ rest) := by
  by_cases hpoint : StartsFraction rest
  · obtain ⟨d, others, rfl, hd⟩ := hpoint
    have hcons : (d :: others).takeWhile Char.isDigit ≠ [] := by
      simp [List.takeWhile_cons_of_pos hd]
    refine ⟨_, _, (d :: others).dropWhile Char.isDigit, ?_, .number
      ⟨whole, (d :: others).takeWhile Char.isDigit, hwhole, mem_takeWhile _ _, fun h => hcons h.2⟩
      (head?_dropWhile_eq_false _ _) fun h => absurd h hcons⟩
    rw [Literal.spelling, if_neg hcons, List.append_assoc, List.cons_append,
      List.takeWhile_append_dropWhile]
  · exact ⟨_, _, rest, by rw [Literal.spelling, if_pos rfl, List.append_nil],
      .number ⟨whole, [], hwhole, List.forall_mem_nil _, fun h => hpoint (hne h.1)⟩ hrest
        fun _ => hpoint⟩

/-- Behind a quote stands a closing one, or the text ends, in a backslash or without. -/
lemma begins_quote {quote : Char} (hquote : quote = '"' ∨ quote = '\'') (cs : List Char) :
    Begins (quote :: cs) := by
  suffices hparts : ∃ written text, Escapes quote written text ∧
      (cs = written ∨ cs = written ++ ['\\'] ∨ ∃ rest, cs = written ++ quote :: rest) by
    obtain ⟨written, text, hescapes, rfl | rfl | ⟨rest, rfl⟩⟩ := hparts
    · exact ⟨_, _, [], (List.append_nil _).symm, .unquoted hquote hescapes⟩
    · exact ⟨_, _, [], (List.append_nil _).symm, .unescaped hquote hescapes⟩
    · exact ⟨_, _, rest, by simp, .quoted hquote hescapes rest⟩
  induction cs using readQuoted.induct quote with
  | case1 => exact ⟨[], [], .nil, .inl rfl⟩
  | case2 c rest _ _ _ ih =>
    obtain ⟨written, text, hescapes, hend⟩ := ih
    exact ⟨_, _, .escaped c hescapes, by simpa using hend⟩
  | case3 rest => exact ⟨[], [], .nil, .inr (.inr ⟨rest, rfl⟩)⟩
  | case4 c rest hbackslash hc _ _ _ ih =>
    obtain ⟨written, text, hescapes, hend⟩ := ih
    by_cases hlast : c = '\\'
    · obtain rfl : rest = [] := by
        rcases rest with _ | ⟨d, rest⟩
        · rfl
        · exact absurd rfl (hbackslash d rest hlast)
      exact ⟨[], [], .nil, .inr (.inl (by rw [hlast]; rfl))⟩
    · exact ⟨_, _, .plain hc hlast hescapes, by simpa using hend⟩

/-- Behind an opening square bracket stands a closing one, or the text ends. -/
lemma begins_bracket (cs : List Char) : Begins ('[' :: cs) := by
  by_cases h : ']' ∈ cs
  · obtain ⟨name, rest, rfl, hname⟩ := List.eq_append_cons_of_mem h
    exact ⟨_, _, rest, by simp, .bracketed hname rest⟩
  · exact ⟨_, _, [], (List.append_nil _).symm, .unbracketed h⟩

/-- A sign is an operator, with the next character or without: no sign has three. -/
lemma begins_sign {c : Char} (hc : c ∈ "+-*/%^&=<>".toList) (cs : List Char) :
    Begins (c :: cs) := by
  have hsingle : "+-*/%^&=<>".toList.all
      (fun c => Operator.all.any fun op => op.symbol.toList == [c]) = true := by decide
  have hlength : ∀ op ∈ Operator.all, op.symbol.toList.length ≤ 2 := by decide
  obtain ⟨op, hop, hsymbol⟩ : ∃ op ∈ Operator.all, op.symbol.toList = [c] := by
    simpa using List.all_eq_true.mp hsingle c hc
  by_cases hcomplete : Complete op cs
  · exact ⟨_, _, cs, by rw [hsymbol, List.singleton_append], .operator hop hcomplete⟩
  · simp only [Complete, not_forall, not_not] at hcomplete
    obtain ⟨d, hd, longer, hlonger, hboth⟩ := hcomplete
    obtain ⟨rest, rfl⟩ := List.head?_eq_some_iff.mp hd
    refine ⟨_, _, rest, by rw [hboth, hsymbol]; rfl, .operator hlonger ?_⟩
    intro e _ three hthree hsymbol'
    have hle := hlength three hthree
    rw [hsymbol', hboth, hsymbol] at hle
    simp at hle

/-- A lexeme begins at every significant character. -/
lemma Significant.begins {c : Char} (h : Significant c cs.head?) : Begins (c :: cs) := by
  obtain hpart | hmark | ⟨rfl, d, hd, hdigit⟩ := h
  · rw [isNamePart, Bool.or_eq_true] at hpart
    obtain hstart | hdigit := hpart
    · refine ⟨_, c :: cs.takeWhile isNamePart, cs.dropWhile isNamePart, ?_,
        .name hstart (mem_takeWhile _ _) (head?_dropWhile_eq_false _ _)⟩
      rw [List.cons_append, List.takeWhile_append_dropWhile]
    · have hbegins := begins_of_digits _ (mem_takeWhile Char.isDigit (c :: cs))
        (head?_dropWhile_eq_false Char.isDigit (c :: cs))
        fun hnil => by simp [List.takeWhile_cons_of_pos hdigit] at hnil
      rwa [List.takeWhile_append_dropWhile] at hbegins
  · obtain hmark | hsign := mem_marks.mp hmark
    · have hc : c = '"' ∨ c = '\'' ∨ c = '[' ∨ c = '(' ∨ c = ')' ∨ c = ',' := by simpa using hmark
      obtain rfl | rfl | rfl | rfl | rfl | rfl := hc
      · exact begins_quote (.inl rfl) cs
      · exact begins_quote (.inr rfl) cs
      · exact begins_bracket cs
      · exact ⟨_, _, cs, rfl, .openParen cs⟩
      · exact ⟨_, _, cs, rfl, .closeParen cs⟩
      · exact ⟨_, _, cs, rfl, .comma cs⟩
    · exact begins_sign hsign cs
  · obtain ⟨others, rfl⟩ := List.head?_eq_some_iff.mp hd
    exact begins_of_digits [] (List.forall_mem_nil _) (fun c hc => by cases hc; decide)
      fun _ => ⟨d, others, rfl, hdigit⟩

/-! ## No lexeme begins elsewhere -/

/-- What a lexeme takes up begins with a significant character. -/
lemma Covers.exists_cons (h : Covers x word rest) :
    ∃ c cs, word = c :: cs ∧ Significant c (cs ++ rest).head? := by
  have hmark : ∀ c ∈ marks, ∀ next, Significant c next := fun c hc next => .inr (.inl hc)
  have hisQuote : ∀ c : Char, c = '"' ∨ c = '\'' → c ∈ marks := by
    rintro c (rfl | rfl) <;> decide
  cases h with
  | number literal hdigit hpoint =>
    obtain ⟨whole, fraction, hwhole, hfraction, hne⟩ := literal
    rcases whole with _ | ⟨c, whole⟩
    · rcases fraction with _ | ⟨d, fraction⟩
      · exact absurd ⟨rfl, rfl⟩ hne
      · exact ⟨'.', d :: fraction, rfl, .inr (.inr ⟨rfl, d, rfl, hfraction d List.mem_cons_self⟩)⟩
    · refine ⟨c, _, rfl, .inl ?_⟩
      rw [isNamePart, hwhole c List.mem_cons_self, Bool.or_true]
  | quoted hquote => exact ⟨_, _, rfl, hmark _ (hisQuote _ hquote) _⟩
  | unquoted hquote => exact ⟨_, _, rfl, hmark _ (hisQuote _ hquote) _⟩
  | unescaped hquote => exact ⟨_, _, rfl, hmark _ (hisQuote _ hquote) _⟩
  | bracketed => exact ⟨_, _, rfl, hmark _ (by decide) _⟩
  | unbracketed => exact ⟨_, _, rfl, hmark _ (by decide) _⟩
  | openParen => exact ⟨_, _, rfl, hmark _ (by decide) _⟩
  | closeParen => exact ⟨_, _, rfl, hmark _ (by decide) _⟩
  | comma => exact ⟨_, _, rfl, hmark _ (by decide) _⟩
  | operator hop =>
    obtain ⟨c, cs, hsymbol, hc⟩ := exists_cons_symbol hop
    exact ⟨c, cs, hsymbol, hmark c (mem_marks.mpr (.inr hc)) _⟩
  | name hstart => exact ⟨_, _, rfl, .inl (isNamePart_of_isNameStart hstart)⟩

/-- Nothing is read at a character that is not significant. -/
lemma read?_of_not_significant {c : Char} (h : ¬ Significant c cs.head?) :
    read? (c :: cs) = none := by
  obtain ⟨hpart, hmark, hpoint⟩ : ¬ isNamePart c = true ∧ c ∉ marks ∧
      ¬ (c = '.' ∧ ∃ d ∈ cs.head?, d.isDigit = true) := by
    simpa only [Significant, not_or] using h
  have hdigit : ¬ c.isDigit = true := fun hdigit => hpart (by rw [isNamePart, hdigit, Bool.or_true])
  have hstart : ¬ isNameStart c = true := fun hstart => hpart (isNamePart_of_isNameStart hstart)
  have hsign : c ∉ "+-*/%^&=<>".toList := fun hsign => hmark (mem_marks.mpr (.inr hsign))
  have hnumber : readNumber? (c :: cs) = none := by
    have hfraction : ¬ StartsFraction (c :: cs) := by
      rintro ⟨d, others, heq, hd⟩
      cases heq
      exact hpoint ⟨rfl, d, rfl, hd⟩
    have hspan : Number.spanDigits (c :: cs) = ([], c :: cs) := by
      rw [Number.spanDigits, List.takeWhile_cons_of_neg hdigit, List.dropWhile_cons_of_neg hdigit]
    simp [readNumber?, hspan, readFraction_eq_nil hfraction]
  rw [read?, hnumber]
  · simp [readOperator?_eq_none hsign, hstart]
  -- The characters that begin something else are marks.
  all_goals
    rintro rfl
    exact hmark (by decide)

/-- A lexeme is read from a text exactly if it takes up what the text begins with. -/
theorem read?_eq_some_iff : read? cs = some (x, rest) ↔ ∃ word, cs = word ++ rest ∧
    Covers x word rest := by
  constructor
  · intro h
    rcases cs with _ | ⟨c, cs⟩
    · exact absurd (length_read?_lt h) (Nat.not_lt_zero _)
    · by_cases hc : Significant c cs.head?
      · obtain ⟨y, word, after, hword, hcovers⟩ := hc.begins
        rw [hword, hcovers.read?_eq] at h
        cases h
        exact ⟨word, hword, hcovers⟩
      · rw [read?_of_not_significant hc] at h
        cases h
  · rintro ⟨word, rfl, hcovers⟩
    exact hcovers.read?_eq

/-- A lexeme takes up the same wherever it is written with the same text behind it. -/
lemma Covers.unique (h : Covers x word rest) (h' : Covers y word' rest')
    (htext : word ++ rest = word' ++ rest') : x = y ∧ word = word' ∧ rest = rest' := by
  have hread := h.read?_eq
  rw [htext, h'.read?_eq] at hread
  cases hread
  exact ⟨rfl, List.append_cancel_right htext, rfl⟩

lemma Covers.length_pos (h : Covers x word rest) : 0 < word.length := by
  obtain ⟨c, cs, rfl, -⟩ := h.exists_cons
  exact Nat.succ_pos _

end Lexeme

end TableFormula
