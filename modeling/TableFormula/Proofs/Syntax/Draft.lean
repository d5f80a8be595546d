import TableFormula.Proofs.Syntax.Language
import TableFormula.Proofs.Syntax.Words

/-!
# Formulas as they are written

A `Draft` is a formula together with every choice that is left when it is written down: how a number
is spelled, how a text is quoted, and where brackets stand that are not needed.  `Draft.words` adds
the brackets that are needed and `Draft.source` puts one space between the words.

**Which brackets are needed.**  Those around a part that is looser than its place allows: the left
operand of an operator may be of the operator's own level, the right operand has to be tighter, and
what is negated has to be an operand.

**Reading back.**  The words of a draft are scanned as lexemes that are a phrase for its formula.
So the formula comes back, whatever choices were made.
-/

namespace TableFormula.Formula

open Text

/-! ## Drafts -/

/-- A formula and the way to write it. -/
inductive Draft where
  | number (literal : Lexeme.Literal)
  | text (quoting : Lexeme.Quoting) (value : String)
  | column (name : String) (h : ']' ∉ name.toList)
  | binary (level : Level) (op : Operator) (h : op.level? = some level) (left right : Draft)
  | negate (operand : Draft)
  | not (operand : Draft)
  | call (function : Function) (args : List Draft)
  | choose (condition whenTrue whenFalse : Draft)
  /-- Brackets that are not needed. -/
  | grouped (inner : Draft)

namespace Draft

mutual

/-- The formula of a draft. -/
def formula : Draft → Formula
  | number literal => .number literal.value
  | text _ value => .text value
  | column name _ => .column name
  | binary _ op _ left right => .binary op left.formula right.formula
  | negate operand => .unary .negate operand.formula
  | not operand => .unary .not operand.formula
  | call function args => .call function.name (formulas args)
  | choose condition whenTrue whenFalse =>
    .choose condition.formula whenTrue.formula whenFalse.formula
  | grouped inner => inner.formula

/-- The formulas of some drafts. -/
def formulas : List Draft → List Formula
  | [] => []
  | draft :: rest => draft.formula :: formulas rest

end

/-- The rank of the phrase that a draft is written as. -/
def rank : Draft → Rank
  | binary level .. => .operators level
  | negate _ | not _ => .operand
  | number _ | text .. | column .. | call .. | choose .. | grouped _ => .primary

/-- Words in brackets. -/
def enclosed (words : List (List Char)) : List (List Char) :=
  ['('] :: (words ++ [[')']])

/-- The words of a part of some rank where another rank may stand, in brackets if they are
needed. -/
def placed (place rank : Rank) (words : List (List Char)) : List (List Char) :=
  if rank.looseness ≤ place.looseness then words else enclosed words

mutual

/-- The words of a draft. -/
def words : Draft → List (List Char)
  | number literal => [literal.spelling]
  | text quoting value => [quoting.spelling value.toList]
  | column name _ => ['[' :: (name.toList ++ [']'])]
  | binary level op _ left right =>
    placed (.operators level) left.rank left.words ++ op.symbol.toList ::
      placed (Rank.operators level).tighter right.rank right.words
  | negate operand => ['-'] :: placed .operand operand.rank operand.words
  | not operand => "NOT".toList :: enclosed operand.words
  | call function args => function.name.toList :: enclosed (listed args)
  | choose condition whenTrue whenFalse =>
    "IF".toList :: enclosed
      (condition.words ++ [','] :: (whenTrue.words ++ [','] :: whenFalse.words))
  | grouped inner => enclosed inner.words

/-- The words of some drafts, with commas between them. -/
def listed : List Draft → List (List Char)
  | [] => []
  | [draft] => draft.words
  | draft :: rest => draft.words ++ [','] :: listed rest

end

/-- The source text of a draft: its words with one space between them. -/
def source (draft : Draft) : String :=
  String.ofList ([' '].intercalate draft.words)

/-! ## Words as lexemes -/

lemma spells_openParen : Spells [['(']] [.openParen] :=
  .word fun rest _ => Lexeme.read?_openParen rest

lemma spells_closeParen : Spells [[')']] [.closeParen] :=
  .word fun rest _ => Lexeme.read?_closeParen rest

lemma spells_comma : Spells [[',']] [.comma] :=
  .word fun rest _ => Lexeme.read?_comma rest

lemma spells_literal (literal : Lexeme.Literal) :
    Spells [literal.spelling] [.number literal.value] :=
  .word fun _ hrest => Lexeme.read?_literal literal hrest

lemma spells_quoted (quoting : Lexeme.Quoting) (value : String) :
    Spells [quoting.spelling value.toList] [.string value] := by
  refine .word fun rest _ => ?_
  rw [Lexeme.read?_quoted, String.ofList_toList]

lemma spells_column {name : String} (h : ']' ∉ name.toList) :
    Spells ['[' :: (name.toList ++ [']'])] [.columnRef name] := by
  refine .word fun rest _ => ?_
  have hread := Lexeme.read?_bracketed h rest
  rw [String.ofList_toList] at hread
  rw [List.cons_append, List.append_assoc]
  exact hread

lemma spells_symbol {op : Operator} {level : Level} (h : op.level? = some level) :
    Spells [op.symbol.toList] [.operator op] := by
  have hop : op ∈ Operator.all := by
    cases op <;> first | decide | cases h
  exact .word fun _ hrest => Lexeme.read?_symbol hop hrest

lemma spells_enclosed {words : List (List Char)} {w : List Lexeme} (h : Spells words w) :
    Spells (enclosed words) (.openParen :: (w ++ [.closeParen])) :=
  spells_openParen.append (h.append spells_closeParen)

/-- Brackets bring a phrase to the rank that its place asks for. -/
lemma derives_placed {r : Rank} {words : List (List Char)} {w : List Lexeme} {f : Formula}
    (place : Rank) (hwords : Spells words w) (hf : Derives r w f) :
    ∃ v, Spells (placed place r words) v ∧ Derives place v f := by
  by_cases h : r.looseness ≤ place.looseness
  · rw [placed, if_pos h]
    exact ⟨w, hwords, hf.mono h⟩
  · rw [placed, if_neg h]
    exact ⟨_, spells_enclosed hwords, (Derives.grouped hf.sentence).mono (Nat.zero_le _)⟩

mutual

/-- **What a draft is scanned as.**  Its words are a phrase of its rank for its formula. -/
lemma spells_derives : (draft : Draft) →
    ∃ w, Spells draft.words w ∧ Derives draft.rank w draft.formula
  | .number literal => ⟨_, spells_literal literal, .number _⟩
  | .text quoting value => ⟨_, spells_quoted quoting value, .text value⟩
  | .column name h => ⟨_, spells_column h, .columnRef name⟩
  | .binary level op h left right => by
    obtain ⟨_, hwords, hleft⟩ := left.spells_derives
    obtain ⟨_, hwords', hright⟩ := right.spells_derives
    obtain ⟨w, hw, hleft⟩ := derives_placed (.operators level) hwords hleft
    obtain ⟨w', hw', hright⟩ := derives_placed (Rank.operators level).tighter hwords' hright
    exact ⟨_, hw.append ((spells_symbol h).append hw'), .binary h hleft hright⟩
  | .negate inner => by
    obtain ⟨_, hwords, hinner⟩ := inner.spells_derives
    obtain ⟨w, hw, hinner⟩ := derives_placed .operand hwords hinner
    have hsign : Spells [Operator.subtract.symbol.toList] [.operator .subtract] := spells_symbol rfl
    exact ⟨_, hsign.append hw, .negate hinner⟩
  | .not inner => by
    obtain ⟨w, hw, hinner⟩ := inner.spells_derives
    have hname : isFunctionName "NOT" = true := by decide
    exact ⟨_, (Spells.function hname).append (hw.append spells_closeParen), .not hinner.sentence⟩
  | .call function args => by
    obtain ⟨parts, hwords, hparts, hformulas⟩ := spells_derives_all args
    have hname : isFunctionName function.name = true := by
      simp [isFunctionName, categoryOf?]
    refine ⟨_, (Spells.function hname).append (hwords.append spells_closeParen), ?_⟩
    rw [formula, ← hformulas]
    exact .call (by cases function <;> decide) (by cases function <;> decide) hparts
  | .choose condition whenTrue whenFalse => by
    obtain ⟨w₁, hw₁, h₁⟩ := condition.spells_derives
    obtain ⟨w₂, hw₂, h₂⟩ := whenTrue.spells_derives
    obtain ⟨w₃, hw₃, h₃⟩ := whenFalse.spells_derives
    have hname : isFunctionName "IF" = true := by decide
    have hparts := hw₁.append (spells_comma.append (hw₂.append (spells_comma.append hw₃)))
    refine ⟨_, (Spells.function hname).append (hparts.append spells_closeParen), ?_⟩
    rw [rank, formula]
    simpa using Derives.choose h₁.sentence h₂.sentence h₃.sentence
  | .grouped inner => by
    obtain ⟨w, hw, hinner⟩ := inner.spells_derives
    exact ⟨_, spells_enclosed hw, .grouped hinner.sentence⟩

/-- The words of some drafts are parts for their formulas. -/
lemma spells_derives_all : (drafts : List Draft) →
    ∃ parts : List Part, Spells (listed drafts) (separated parts) ∧
      (∀ part ∈ parts, Derives .disjunction part.1 part.2) ∧
      parts.map (·.2) = formulas drafts
  | [] => ⟨[], .nil, nofun, rfl⟩
  | [draft] => by
    obtain ⟨w, hw, hdraft⟩ := draft.spells_derives
    refine ⟨[(w, draft.formula)], ?_, ?_, rfl⟩
    · rw [separated_singleton]
      exact hw
    · simpa using hdraft.sentence
  | draft :: other :: drafts => by
    obtain ⟨w, hw, hdraft⟩ := draft.spells_derives
    obtain ⟨parts, hwords, hparts, hformulas⟩ := spells_derives_all (other :: drafts)
    obtain ⟨part, parts, rfl⟩ : ∃ part others, parts = part :: others := by
      rcases parts with _ | ⟨part, parts⟩
      · cases hformulas
      · exact ⟨part, parts, rfl⟩
    refine ⟨(w, draft.formula) :: part :: parts, ?_, ?_, ?_⟩
    · rw [separated_cons_cons]
      exact hw.append (spells_comma.append hwords)
    · simpa using ⟨hdraft.sentence, by simpa using hparts⟩
    · rw [List.map_cons, hformulas]
      rfl

end

/-- The tokens of the source of a draft are a sentence for its formula. -/
lemma sentence_scan_source (draft : Draft) :
    Sentence (lexemes (scan draft.source).tokens) draft.formula := by
  obtain ⟨w, hspells, hf⟩ := draft.spells_derives
  have hscan : lexemes (scan draft.source).tokens = w := by
    rw [scan, source, String.toList_ofList, lexemes, map_lexeme_scanFrom]
    exact hspells.scanned_intercalate
  rw [hscan]
  exact hf.sentence

end Draft

/-! ## Formulas that can be written -/

/-- The formulas that the language has a way to write. -/
inductive Writable : Formula → Prop
  | number (literal : Lexeme.Literal) : Writable (.number literal.value)
  | text (value : String) : Writable (.text value)
  | column {name : String} (h : ']' ∉ name.toList) : Writable (.column name)
  | binary {op : Operator} {left right : Formula} (hop : op ∈ Operator.all)
      (hleft : Writable left) (hright : Writable right) : Writable (.binary op left right)
  | negate {operand : Formula} (h : Writable operand) : Writable (.unary .negate operand)
  | not {operand : Formula} (h : Writable operand) : Writable (.unary .not operand)
  | call (function : Function) {args : List Formula} (hargs : ∀ arg ∈ args, Writable arg) :
      Writable (.call function.name args)
  | choose {condition whenTrue whenFalse : Formula} (hcondition : Writable condition)
      (hwhenTrue : Writable whenTrue) (hwhenFalse : Writable whenFalse) :
      Writable (.choose condition whenTrue whenFalse)

namespace Draft

mutual

lemma writable_formula : (draft : Draft) → Writable draft.formula
  | .number literal => .number literal
  | .text _ value => .text value
  | .column _ h => .column h
  | .binary _ op h left right => by
    have hop : op ∈ Operator.all := by
      cases op <;> first | decide | cases h
    exact .binary hop left.writable_formula right.writable_formula
  | .negate operand => .negate operand.writable_formula
  | .not operand => .not operand.writable_formula
  | .call function args => .call function (writable_formulas args)
  | .choose condition whenTrue whenFalse =>
    .choose condition.writable_formula whenTrue.writable_formula whenFalse.writable_formula
  | .grouped inner => inner.writable_formula

lemma writable_formulas : (drafts : List Draft) → ∀ f ∈ formulas drafts, Writable f
  | [] => nofun
  | draft :: drafts => by
    intro f hf
    obtain rfl | hf := List.mem_cons.mp hf
    · exact draft.writable_formula
    · exact writable_formulas drafts f hf

end

lemma exists_formulas {args : List Formula}
    (h : ∀ arg ∈ args, ∃ draft : Draft, draft.formula = arg) :
    ∃ drafts, formulas drafts = args := by
  induction args with
  | nil => exact ⟨[], rfl⟩
  | cons arg args ih =>
    obtain ⟨draft, rfl⟩ := h arg List.mem_cons_self
    obtain ⟨drafts, rfl⟩ := ih fun other hother => h other (List.mem_cons_of_mem _ hother)
    exact ⟨draft :: drafts, rfl⟩

end Draft

/-- Every formula that can be written has a draft, and no others do. -/
lemma writable_iff (f : Formula) : Writable f ↔ ∃ draft : Draft, draft.formula = f := by
  constructor
  · intro h
    induction h with
    | number literal => exact ⟨.number literal, rfl⟩
    | text value => exact ⟨.text .double value, rfl⟩
    | @column name h => exact ⟨.column name h, rfl⟩
    | @binary op _ _ hop _ _ ih ih' =>
      obtain ⟨left, rfl⟩ := ih
      obtain ⟨right, rfl⟩ := ih'
      obtain ⟨level, hlevel⟩ : ∃ level, op.level? = some level := by
        cases op <;> first | exact ⟨_, rfl⟩ | simp [Operator.all] at hop
      exact ⟨.binary level op hlevel left right, rfl⟩
    | negate _ ih =>
      obtain ⟨operand, rfl⟩ := ih
      exact ⟨.negate operand, rfl⟩
    | not _ ih =>
      obtain ⟨operand, rfl⟩ := ih
      exact ⟨.not operand, rfl⟩
    | call function _ ih =>
      obtain ⟨drafts, rfl⟩ := Draft.exists_formulas ih
      exact ⟨.call function drafts, rfl⟩
    | choose _ _ _ ih₁ ih₂ ih₃ =>
      obtain ⟨condition, rfl⟩ := ih₁
      obtain ⟨whenTrue, rfl⟩ := ih₂
      obtain ⟨whenFalse, rfl⟩ := ih₃
      exact ⟨.choose condition whenTrue whenFalse, rfl⟩
  · rintro ⟨draft, rfl⟩
    exact draft.writable_formula

/-- **Writing and reading.**  Every formula that can be written is the formula of drafts, and the
source of each of its drafts is read as that formula: whatever brackets stand in it that are not
needed, and however its numbers and texts are spelled.  Only a bound that is smaller than what the
tokens can need may make reading find the nesting too deep instead. -/
theorem ofTokensWithin_scan_source :
    (∀ f, Writable f ↔ ∃ draft : Draft, draft.formula = f) ∧
      ∀ (draft : Draft) (depth : Nat),
        ofTokensWithin depth (scan draft.source) = .ok draft.formula ∨
          ofTokensWithin depth (scan draft.source) = .error .tooDeep ∧
            depth < 2 * (scan draft.source).tokens.length + 2 := by
  refine ⟨writable_iff, fun draft depth => ?_⟩
  exact ofTokensWithin_of_sentence draft.sentence_scan_source depth

end TableFormula.Formula
