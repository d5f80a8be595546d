import TableFormula.Calendar.Everyday.Reader
import TableFormula.Proofs.Evaluation.Origin
import TableFormula.Proofs.Syntax.Soundness

/-!
# Formulas of the language

A tree may hold operators and functions that the language does not know, and places where no formula
stands.  A formula that is read from a text holds none of them: the scanner makes function words of
names of the language only, the grammar has its own rules for the two names that are never called,
and the signs of operators are those that have a level.

**A closed vocabulary.**  An evaluation comes to nodes of the formula only.  So a formula that was
read never fails for want of a meaning, and the only fault of a call that is not one of values or of
the table is a number of arguments that an eager function does not take.
-/

namespace TableFormula

open Text

/-- A fault of something that the language does not know. -/
def Fault.isForeign : Fault → Bool
  | unknownFunction _ | unknownOperator _ | unknownSign _ | hole => true
  | _ => false

lemma Fault.isForeign_of_isOfValues {fault : Fault} (h : fault.isOfValues = true) :
    fault.isForeign = false := by
  cases fault <;> first | rfl | cases h

/-! ## What is scanned -/

namespace Lexeme

/-- A function word is a name of the language. -/
lemma isFunctionName_of_read? {cs rest : List Char} {name : String}
    (h : read? cs = some (function name, rest)) : isFunctionName name = true := by
  have hword : ∀ name cs rest, ofName cs rest = function name → isFunctionName name = true := by
    intro name cs rest hname
    simp only [ofName] at hname
    split_ifs at hname with _ _ hknown
    cases hname
    exact hknown
  unfold read? at h
  split at h
  · cases h
  · split at h <;> try cases h
    split at h
    · cases h
    · split_ifs at h
      simp only [Option.some.injEq, Prod.mk.injEq] at h
      exact hword _ _ _ h.1

end Lexeme

lemma isFunctionName_of_mem_scanFrom {position : Nat} {cs : List Char} {name : String}
    (h : Lexeme.function name ∈ Formula.lexemes (scanFrom position cs)) :
    isFunctionName name = true := by
  fun_induction scanFrom position cs with
  | case1 => cases h
  | case2 _ _ _ _ ih => exact ih h
  | case3 _ _ _ _ _ ih => exact ih h
  | case4 position c tail _ lexeme rest hread ih =>
    rw [Formula.lexemes_cons, List.mem_cons] at h
    obtain rfl | h := h
    · exact Lexeme.isFunctionName_of_read? hread
    · exact ih h

/-! ## What is read -/

/-- Whether the language knows an operator on one operand. -/
def Sign.isKnown : Sign → Bool
  | negate | not => true
  | other _ => false

namespace Formula

mutual

/-- Whether a formula holds only operators and functions that the language knows. -/
def isOfLanguage : Formula → Bool
  | number _ | text _ | column _ => true
  | binary op left right => op.level?.isSome && left.isOfLanguage && right.isOfLanguage
  | unary sign operand => sign.isKnown && operand.isOfLanguage
  | call name args => (Function.ofName? name).isSome && isOfLanguageAll args
  | choose condition whenTrue whenFalse =>
    condition.isOfLanguage && whenTrue.isOfLanguage && whenFalse.isOfLanguage
  | hole => false

/-- Whether some formulas hold only operators and functions that the language knows. -/
def isOfLanguageAll : List Formula → Bool
  | [] => true
  | f :: rest => f.isOfLanguage && isOfLanguageAll rest

end

lemma isOfLanguageAll_eq_all (args : List Formula) :
    isOfLanguageAll args = args.all isOfLanguage := by
  induction args with
  | nil => rfl
  | cons f rest ih => rw [isOfLanguageAll, ih, List.all_cons]

/-- The parts of a formula of the language are of the language. -/
lemma isOfLanguage_of_mem_parts {f p : Formula} (hf : f.isOfLanguage = true) (hp : p ∈ f.parts) :
    p.isOfLanguage = true := by
  cases f with
  | number x | text s | column name | hole => cases hp
  | binary op left right =>
    simp only [isOfLanguage, Bool.and_eq_true] at hf
    obtain rfl | rfl := by simpa [parts] using hp
    · exact hf.1.2
    · exact hf.2
  | unary sign operand =>
    simp only [isOfLanguage, Bool.and_eq_true] at hf
    obtain rfl := by simpa [parts] using hp
    exact hf.2
  | call name args =>
    simp only [isOfLanguage, isOfLanguageAll_eq_all, Bool.and_eq_true, List.all_eq_true] at hf
    exact hf.2 p hp
  | choose condition whenTrue whenFalse =>
    simp only [isOfLanguage, Bool.and_eq_true] at hf
    obtain rfl | rfl | rfl := by simpa [parts] using hp
    · exact hf.1.1
    · exact hf.1.2
    · exact hf.2

/-- An evaluation of a formula of the language comes to nodes of the language. -/
lemma Evaluates.isOfLanguage {f g : Formula} {c c' : Context} (h : f.Evaluates c g c')
    (hf : f.isOfLanguage = true) : g.isOfLanguage = true := by
  induction h with
  | self => exact hf
  | part hp _ ih => exact ih (isOfLanguage_of_mem_parts hf hp.mem_parts)

lemma mem_separated {parts : List Part} {part : Part} (hpart : part ∈ parts) {x : Lexeme}
    (hx : x ∈ part.1) : x ∈ separated parts := by
  induction parts with
  | nil => cases hpart
  | cons first parts ih =>
    cases parts with
    | nil =>
      obtain rfl := List.mem_singleton.mp hpart
      simpa using hx
    | cons second others =>
      rw [separated_cons_cons, List.mem_append, List.mem_cons]
      obtain rfl | hpart := List.mem_cons.mp hpart
      · exact .inl hx
      · exact .inr (.inr (ih hpart))

/-- A name of the language that has no rule of its own in the grammar is that of a function. -/
lemma isSome_ofName? {name : String} (h : isFunctionName name = true) (hif : name ≠ "IF")
    (hnot : name ≠ "NOT") : (Function.ofName? name).isSome = true := by
  rw [isFunctionName, categoryOf?, Option.isSome_or, Bool.or_eq_true, Option.isSome_map] at h
  refine h.resolve_right ?_
  have hif' : (name == "IF") = false := beq_false_of_ne hif
  have hnot' : (name == "NOT") = false := beq_false_of_ne hnot
  simp [grammarNames, List.lookup_cons, List.lookup_nil, hif', hnot']

/-- A phrase whose function words are names of the language stands for a formula of the language. -/
lemma Derives.isOfLanguage {r : Rank} {w : List Lexeme} {f : Formula} (h : Derives r w f)
    (hw : ∀ name, .function name ∈ w → isFunctionName name = true) : f.isOfLanguage = true := by
  have hparts : ∀ {parts : List Part} {w : List Lexeme},
      (∀ part ∈ parts, (∀ name, .function name ∈ part.1 → isFunctionName name = true) →
        part.2.isOfLanguage = true) →
      (∀ name, .function name ∈ w → isFunctionName name = true) → separated parts ⊆ w →
        isOfLanguageAll (parts.map (·.2)) = true := by
    intro parts w hparts hw hsubset
    rw [isOfLanguageAll_eq_all, List.all_map, List.all_eq_true]
    intro part hpart
    exact hparts part hpart fun name hname => hw name (hsubset (mem_separated hpart hname))
  induction h with
  | number | text | columnRef | identifier => rfl
  | choose _ _ _ ih₁ ih₂ ih₃ =>
    have hcondition := ih₁ fun name hname => hw name (by simp [hname])
    have hwhenTrue := ih₂ fun name hname => hw name (by simp [hname])
    have hwhenFalse := ih₃ fun name hname => hw name (by simp [hname])
    simp [Formula.isOfLanguage, hcondition, hwhenTrue, hwhenFalse]
  | @call name parts hif hnot _ ih =>
    have hname := isSome_ofName? (hw name (by simp)) hif hnot
    have hargs := hparts ih hw fun x hx => by simp [hx]
    simp [Formula.isOfLanguage, hname, hargs]
  | grouped _ ih => exact ih fun name hname => hw name (by simp [hname])
  | negate _ ih =>
    have hoperand := ih fun name hname => hw name (by simp [hname])
    simp [Formula.isOfLanguage, Sign.isKnown, hoperand]
  | not _ ih =>
    have hoperand := ih fun name hname => hw name (by simp [hname])
    simp [Formula.isOfLanguage, Sign.isKnown, hoperand]
  | binary hop _ _ ih₁ ih₂ =>
    have hleft := ih₁ fun name hname => hw name (by simp [hname])
    have hright := ih₂ fun name hname => hw name (by simp [hname])
    simp [Formula.isOfLanguage, hop, hleft, hright]
  | @connect r name w left parts hname _ _ _ ih₁ ih₂ =>
    have hknown : (Function.ofName? name).isSome = true := by
      cases r <;> cases hname <;> decide
    have hleft := ih₁ fun name hname => hw name (by simp [hname])
    have hargs := hparts ih₂ hw fun x hx => by simp [hx]
    simp [Formula.isOfLanguage, isOfLanguageAll, hknown, hleft, hargs]
  | tighter _ ih => exact ih hw

/-- What is read from a text is of the language. -/
lemma isOfLanguage_of_parse {source : String} {f : Formula} (h : parse source = .ok f) :
    f.isOfLanguage = true := by
  obtain ⟨taken, rest, htokens, -, hf⟩ := exists_taken_of_parse h
  refine hf.isOfLanguage fun name hname => ?_
  have hmem : .function name ∈ lexemes (scan source).tokens := by
    rw [htokens, lexemes_append]
    exact List.mem_append_left _ hname
  exact isFunctionName_of_mem_scanFrom hmem

/-! ## What a formula of the language fails for -/

/-- Only nodes that the language does not know have foreign faults. -/
lemma OwnFault.isForeign_eq_false {f : Formula} {c : Context} {fault : Fault}
    (h : OwnFault c f fault) (hf : f.isOfLanguage = true) : fault.isForeign = false := by
  cases h with
  | tooDeep | unknownColumn | wrongCount => rfl
  | hole => cases hf
  | unknownOperator symbol left right => simp [isOfLanguage, Operator.level?] at hf
  | unknownSign symbol operand => simp [isOfLanguage, Sign.isKnown] at hf
  | unknownFunction hname => simp [isOfLanguage, hname] at hf
  | deferred _ hfault =>
    obtain hvalues | ⟨_, _, _, rfl⟩ | ⟨_, rfl⟩ := hfault
    · exact Fault.isForeign_of_isOfValues hvalues
    · rfl
    · rfl
  | values _ hvalues => exact Fault.isForeign_of_isOfValues hvalues

/-- A node at which a wrong number of arguments arises is a call that has it, of a function that is
given values. -/
lemma ArisesAt.exists_call {f : Formula} {c : Context} {name : String} {given : Nat}
    (h : ArisesAt (.wrongCount name given) f c) :
    ∃ function rule args, Function.meaning c.clock.everyday function = .ofValues rule ∧
      function.name = name ∧ f = .call name args ∧ args.length = given ∧
        rule.accepts given = false := by
  cases h.ownFault with
  | wrongCount hrule hcount => exact ⟨_, _, _, hrule, rfl, rfl, rfl, hcount⟩
  | deferred _ hfault =>
    obtain hvalues | ⟨_, _, _, hmissing⟩ | ⟨_, hrows⟩ := hfault
    · cases hvalues
    · cases hmissing
    · cases hrows
  | values _ hvalues => cases hvalues

/-- A call of a function that is given values fails for their number, if it does not take so many,
all of them have values and the call is not too deep. -/
lemma eval_call_eq_wrongCount {function : Function} {rule : Rule} {args : List Formula}
    {c : Context} (hrule : function.meaning c.deeper.clock.everyday = .ofValues rule)
    (hcount : rule.accepts args.length = false) (hlevel : c.depth + 1 ≤ c.limit)
    (hargs : ∀ p ∈ args, p.HasValue c.deeper) :
    (call function.name args).eval c = .error (.wrongCount function.name args.length) := by
  obtain ⟨values, hlength, hcall⟩ := exists_call_eq_apply hrule hargs
  have hnone : rule.run? values = none := by
    rw [← Option.isNone_iff_eq_none, ← Option.not_isSome, rule.isSome_run?, hlength, hcount]
    rfl
  rw [eval, evalAll_eq_map, Evaluator.guarded_of_le hlevel, Evaluator.ofCall,
    Function.ofName?_name]
  show function.call (args.map eval) c.deeper = _
  rw [hcall, Rule.apply, hnone, hlength]
  rfl

/-- **A closed vocabulary.**  A formula that was read from a text never fails for an operator, a
function or a node without meaning.  It fails for a wrong number of arguments exactly where its
evaluation comes to a call of a function that is given values, does not take so many and has got
them; with a number that it takes, a function fails for the values' sake only, whatever they are. -/
theorem eval_of_parse {source : String} {f : Formula} (h : parse source = .ok f) (c : Context) :
    (∀ fault, f.eval c = .error fault → fault.isForeign = false) ∧
    (∀ name given, f.eval c = .error (.wrongCount name given) ↔
      ∃ function rule args c', Function.meaning c'.clock.everyday function = .ofValues rule ∧
        function.name = name ∧ f.Evaluates c (.call name args) c' ∧ args.length = given ∧
        rule.accepts given = false ∧
        c'.depth + 1 ≤ c'.limit ∧ ∀ p ∈ args, p.HasValue c'.deeper) ∧
    ∀ reader function rule, Function.meaning reader function = .ofValues rule →
      ∀ values : List Value, rule.accepts values.length = true → ∀ fault,
        rule.apply function.name values = .error fault → fault.isOfValues = true := by
  refine ⟨?_, ?_, ?_⟩
  · intro fault hfault
    obtain ⟨g, c', hg, harises⟩ := exists_origin hfault
    exact harises.ownFault.isForeign_eq_false (hg.isOfLanguage (isOfLanguage_of_parse h))
  · intro name given
    constructor
    · intro hfault
      obtain ⟨g, c', hg, harises⟩ := exists_origin hfault
      obtain ⟨function, rule, args, hrule, rfl, rfl, rfl, hcount⟩ := harises.exists_call
      have hlevel : c'.depth + 1 ≤ c'.limit := by
        by_contra hdeep
        have hrefused : (call function.name args).eval c' = .error (.tooDeep c'.limit) :=
          Evaluator.guarded_of_lt (Int.not_le.mp hdeep) _
        rw [harises.fails] at hrefused
        cases hrefused
      refine ⟨function, rule, args, c', hrule, rfl, hg, rfl, hcount, hlevel, ?_⟩
      have heager : function.isDeferred = false := by
        cases function <;> first | rfl | cases hrule
      refine forall_mem_hasValue_of_eager heager fun p c'' hp => ?_
      exact harises.parts p c'' (.argument hlevel (Function.ofName?_name function) hp)
    · rintro ⟨function, rule, args, c', hrule, rfl, hg, rfl, hcount, hlevel, hargs⟩
      exact eval_eq_error_of_evaluates hg (eval_call_eq_wrongCount hrule hcount hlevel hargs)
  · intro reader function rule hrule values haccepts fault hfault
    have hown := (Function.byValues hrule).failsWith_ownFault function.name values fault hfault
    obtain hvalues | ⟨hcount, -⟩ := hown
    · exact hvalues
    · rw [haccepts] at hcount
      cases hcount

/-- The branch that is taken lacks an argument, and so does the other one. -/
theorem eval_left_without_arguments : ∃ f, parse "IF(LEN('a'), LEFT(), MID('a'))" = .ok f ∧
    ∃ function rule args c', Function.meaning c'.clock.everyday function = .ofValues rule ∧
      function.name = "LEFT" ∧
      f.Evaluates (.top (.atMidnight ⟨1970, 1, 1, by decide⟩) 200 [] none [])
        (.call "LEFT" args) c' ∧
      args.length = 0 ∧ rule.accepts 0 = false := by
  have hrun : (parse "IF(LEN('a'), LEFT(), MID('a'))").toOption.map (fun f =>
      match f.eval (.top (.atMidnight ⟨1970, 1, 1, by decide⟩) 200 [] none []) with
      | .error fault => fault == .wrongCount "LEFT" 0
      | .ok _ => false) = some true := by decide +kernel
  cases hparse : parse "IF(LEN('a'), LEFT(), MID('a'))" with
  | error fault =>
    rw [hparse] at hrun
    cases hrun
  | ok f =>
    rw [hparse] at hrun
    have hcalls := (eval_of_parse hparse
      (.top (.atMidnight ⟨1970, 1, 1, by decide⟩) 200 [] none [])).2.1 "LEFT" 0
    cases heval : f.eval (.top (.atMidnight ⟨1970, 1, 1, by decide⟩) 200 [] none []) with
    | ok v => simp [Except.toOption, heval] at hrun
    | error fault =>
      have hfault : fault = .wrongCount "LEFT" 0 := by
        simpa [Except.toOption, heval] using hrun
      rw [hfault] at heval
      obtain ⟨function, rule, args, c', hrule, hname, hcall, hlength, hcount, -⟩ :=
        hcalls.mp heval
      exact ⟨f, rfl, function, rule, args, c', hrule, hname, hcall, hlength, hcount⟩

end Formula

end TableFormula
