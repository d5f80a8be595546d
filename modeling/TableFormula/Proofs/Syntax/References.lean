import TableFormula.Formula.Check
import TableFormula.Proofs.Syntax.Soundness

/-!
# References of a formula that is read

A reference is a token of its own, a name in square brackets or a bare name.  This module says that
reading neither loses nor moves any of them: the references of the formula are those among the
tokens that were taken for it, in the same order and as often.

**Phrases.**  Every rule of the grammar keeps its parts in the order in which they are written, also
the one by which `x AND(y)` stands for a call.  So the references of a formula are the ones of each
phrase for it (`Derives.references_eq`).

**Walks.**  A walk looks for the references of the tree and goes down a fixed number of levels.  It
gives all of them for a formula that is not higher, and for a higher one it gives the first ones and
then gives up (`walks_visits`).
-/

namespace TableFormula

/-- The name by which a lexeme refers to a column, if it is a reference. -/
def Lexeme.reference? : Lexeme → Option String
  | columnRef name | identifier name => some name
  | number _ | string _ | function _ | operator _ | openParen | closeParen | comma => none

namespace Formula

/-! ## References of phrases -/

/-- The names by which some lexemes refer to columns. -/
def mentioned (w : List Lexeme) : List String :=
  w.filterMap Lexeme.reference?

@[simp] lemma mentioned_nil : mentioned [] = [] := rfl

@[simp] lemma mentioned_cons (x : Lexeme) (w : List Lexeme) :
    mentioned (x :: w) = x.reference?.toList ++ mentioned w := by
  cases hx : x.reference? <;> simp [mentioned, hx]

@[simp] lemma mentioned_append (w v : List Lexeme) :
    mentioned (w ++ v) = mentioned w ++ mentioned v :=
  List.filterMap_append

/-- The references of parts are those of their formulas; the commas between them are none. -/
lemma mentioned_separated {parts : List Part}
    (h : ∀ part ∈ parts, part.2.references = mentioned part.1) :
    referencesAll (parts.map (·.2)) = mentioned (separated parts) := by
  induction parts with
  | nil => rfl
  | cons part parts ih =>
    obtain ⟨hpart, hparts⟩ := List.forall_mem_cons.mp h
    rw [List.map_cons, referencesAll, hpart, ih hparts]
    cases parts with
    | nil => simp
    | cons other parts => simp [Lexeme.reference?]

/-- **No reference is lost or moved.**  The references of a formula are those of a phrase for it. -/
lemma Derives.references_eq {r : Rank} {w : List Lexeme} {f : Formula} (h : Derives r w f) :
    f.references = mentioned w := by
  induction h with
  | number | text | columnRef | identifier => rfl
  | choose _ _ _ ih₁ ih₂ ih₃ => simp [references, Lexeme.reference?, ih₁, ih₂, ih₃]
  | call _ _ _ ih => simp [references, Lexeme.reference?, mentioned_separated ih]
  | grouped _ ih | negate _ ih | not _ ih => simp [references, Lexeme.reference?, ih]
  | binary _ _ _ ih₁ ih₂ => simp [references, Lexeme.reference?, ih₁, ih₂]
  | connect _ _ _ _ ih₁ ih₂ =>
    simp [references, referencesAll, Lexeme.reference?, ih₁, mentioned_separated ih₂]
  | tighter _ ih => exact ih

/-! ## References on a walk -/

/-- How a walk goes that is to give some names: it gives all of them, or it gives the first ones and
then comes to a node that lies too deep. -/
inductive Walks (names : List String) : List Visit → Prop
  | whole : Walks names (names.map .reference)
  | cut {given : List String} (after : List Visit) (hgiven : given <+: names) :
      Walks names (given.map .reference ++ .tooDeep :: after)

lemma Walks.append {names names' : List String} {visits visits' : List Visit}
    (h : Walks names visits) (h' : Walks names' visits') :
    Walks (names ++ names') (visits ++ visits') := by
  cases h with
  | whole =>
    cases h' with
    | whole =>
      rw [← List.map_append]
      exact .whole
    | cut after hgiven =>
      rw [← List.append_assoc, ← List.map_append]
      exact .cut after ((List.prefix_append_right_inj names).mpr hgiven)
  | cut after hgiven =>
    rw [List.append_assoc, List.cons_append]
    exact .cut _ (hgiven.trans (List.prefix_append names names'))

mutual

/-- A walk gives the references of a formula in their order, as far as it goes. -/
lemma walks_visits : (f : Formula) → (depth : Nat) → Walks f.references (f.visits depth)
  | f, 0 => by
    have hvisits : f.visits 0 = [.tooDeep] := by
      cases f <;> rfl
    rw [hvisits]
    exact .cut [] List.nil_prefix
  | .number _, _ + 1 | .text _, _ + 1 | .hole, _ + 1 | .column _, _ + 1 => .whole
  | .binary _ left right, depth + 1 =>
    (walks_visits left depth).append (walks_visits right depth)
  | .unary _ operand, depth + 1 => walks_visits operand depth
  | .call _ args, depth + 1 => walks_visitsAll args depth
  | .choose condition whenTrue whenFalse, depth + 1 =>
    ((walks_visits condition depth).append (walks_visits whenTrue depth)).append
      (walks_visits whenFalse depth)

lemma walks_visitsAll : (args : List Formula) → (depth : Nat) →
    Walks (referencesAll args) (visitsAll args depth)
  | [], _ => .whole
  | f :: rest, depth => (walks_visits f depth).append (walks_visitsAll rest depth)

end

mutual

/-- A walk comes to a node that lies too deep exactly in formulas that are higher than it goes. -/
lemma tooDeep_mem_visits_iff : (f : Formula) → (depth : Nat) →
    .tooDeep ∈ f.visits depth ↔ depth < f.height
  | f, 0 => by
    cases f <;> simp [visits, height]
  | .number _, _ + 1 | .text _, _ + 1 | .hole, _ + 1 | .column _, _ + 1 => by
    simp [visits, height]
  | .binary _ left right, depth + 1 => by
    rw [visits, height, List.mem_append, tooDeep_mem_visits_iff left depth,
      tooDeep_mem_visits_iff right depth]
    omega
  | .unary _ operand, depth + 1 => by
    rw [visits, height, tooDeep_mem_visits_iff operand depth, Nat.add_lt_add_iff_right]
  | .call _ args, depth + 1 => by
    rw [visits, height, tooDeep_mem_visitsAll_iff args depth, Nat.add_lt_add_iff_right]
  | .choose condition whenTrue whenFalse, depth + 1 => by
    rw [visits, height, List.mem_append, List.mem_append, tooDeep_mem_visits_iff condition depth,
      tooDeep_mem_visits_iff whenTrue depth, tooDeep_mem_visits_iff whenFalse depth]
    omega

lemma tooDeep_mem_visitsAll_iff : (args : List Formula) → (depth : Nat) →
    .tooDeep ∈ visitsAll args depth ↔ depth < heightAll args
  | [], _ => by simp [visitsAll, heightAll]
  | f :: rest, depth => by
    rw [visitsAll, heightAll, List.mem_append, tooDeep_mem_visits_iff f depth,
      tooDeep_mem_visitsAll_iff rest depth]
    omega

end

/-- A walk that meets references only gives all of them. -/
lemma walkReferences?_of_whole {f : Formula} {names : List String}
    (h : f.visits walkLimit = names.map .reference) : f.walkReferences? = some names := by
  rw [walkReferences?, h]
  clear h
  induction names with
  | nil => rfl
  | cons name names ih =>
    rw [List.map_cons, List.mapM_cons, ih]
    rfl

/-- A walk that comes to a node that lies too deep gives up. -/
lemma walkReferences?_of_tooDeep {f : Formula} (h : .tooDeep ∈ f.visits walkLimit) :
    f.walkReferences? = none := by
  obtain ⟨before, after, hvisits⟩ := List.append_of_mem h
  rw [walkReferences?, hvisits, List.mapM_append]
  simp

/-- **Where a walk ends.**  It gives all references of a formula that is not higher than it goes;
for any other formula it gives the first ones and gives up. -/
lemma walkReferences?_cases (f : Formula) :
    f.height ≤ walkLimit ∧ f.walkReferences? = some f.references ∨
      walkLimit < f.height ∧ f.walkReferences? = none ∧ ∃ given after,
        f.visits walkLimit = given.map .reference ++ .tooDeep :: after ∧
          given <+: f.references := by
  have hheight := tooDeep_mem_visits_iff f walkLimit
  generalize hvisits : f.visits walkLimit = visits at hheight
  have hwalks : Walks f.references visits := hvisits ▸ walks_visits f walkLimit
  cases hwalks with
  | whole =>
    refine .inl ⟨?_, walkReferences?_of_whole hvisits⟩
    simpa using hheight
  | @cut given after hgiven =>
    have hmem : .tooDeep ∈ given.map Visit.reference ++ .tooDeep :: after := by simp
    exact .inr ⟨hheight.mp hmem, walkReferences?_of_tooDeep (hvisits ▸ hmem), given, after, rfl,
      hgiven⟩

/-! ## References of a text -/

/-- **References are tokens.**  The references of a formula that is read from a text are those of
the tokens that were taken for it, in their order and as often.  A walk gives just these, if the
formula is not higher than the walk goes; otherwise it gives the first of them and gives up. -/
theorem references_of_taken_tokens {source : String} {f : Formula} (h : parse source = .ok f) :
    ∃ taken rest, (scan source).tokens = taken ++ rest ∧
      expression nestingLimit (scan source).tokens = .ok (f, rest) ∧
      f.references = mentioned (lexemes taken) ∧
      (f.height ≤ walkLimit ∧ f.walkReferences? = some (mentioned (lexemes taken)) ∨
        walkLimit < f.height ∧ f.walkReferences? = none ∧ ∃ given after,
          f.visits walkLimit = given.map .reference ++ .tooDeep :: after ∧
            given <+: mentioned (lexemes taken)) := by
  obtain ⟨taken, rest, htokens, hread, hf⟩ := exists_taken_of_parse h
  have hreferences := hf.references_eq
  have hwalk := walkReferences?_cases f
  rw [hreferences] at hwalk
  exact ⟨taken, rest, htokens, hread, hreferences, hwalk⟩

/-- Connectives, a choice and a call within each other; the last name is left over. -/
theorem references_of_nested_tokens : ∃ f taken rest,
    parse "[a] AND(b, NOT(IF([a], c, -[d])), SUM([b])) OR(1) e" = .ok f ∧
    (scan "[a] AND(b, NOT(IF([a], c, -[d])), SUM([b])) OR(1) e").tokens = taken ++ rest ∧
    f.references = mentioned (lexemes taken) ∧
    mentioned (lexemes taken) = ["a", "b", "a", "c", "d", "b"] := by
  have hnames : (parse "[a] AND(b, NOT(IF([a], c, -[d])), SUM([b])) OR(1) e").toOption.map
      references = some ["a", "b", "a", "c", "d", "b"] := by decide +kernel
  cases h : parse "[a] AND(b, NOT(IF([a], c, -[d])), SUM([b])) OR(1) e" with
  | error fault =>
    rw [h] at hnames
    cases hnames
  | ok f =>
    rw [h] at hnames
    obtain ⟨taken, rest, htokens, -, hreferences, -⟩ := references_of_taken_tokens h
    have hf : f.references = ["a", "b", "a", "c", "d", "b"] := Option.some.inj hnames
    exact ⟨f, taken, rest, rfl, htokens, hreferences, hreferences ▸ hf⟩

end Formula

end TableFormula
