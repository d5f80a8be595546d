import TableFormula.Proofs.Evaluation.Outcome
import TableFormula.Proofs.Syntax.Language
import TableFormula.Proofs.Value.Numbers

/-!
# Joins in any grouping

Texts are joined by an operator of two operands and by two functions of any number of arguments.
An operand of the operator that is a join itself is a text already, and its own text.  So what a
join of joins comes to does not depend on how its operands are grouped, only on their order.

**Values without a text.**  A whole number with too many digits has none, and a join with it fails.
A function looks for texts when it has the values of all its arguments; the operator does so after
every operand.  So where a later operand fails as well, the two may fail in different ways
(`IsCutShort`); a text they have in the same cases.

A *grouping* is a formula of joins together with the brackets that it is written with.  Without any
brackets the operands are joined one after the other; a join that is the right operand of another
one has to stand in brackets.
-/

namespace TableFormula

namespace Formula

/-! ## Texts of outcomes -/

/-- The text of an outcome. -/
def shown (f : Formula) (c : Context) : Except Fault String :=
  f.outcome c >>= Value.toText

/-- What some formulas join to: first they are evaluated, then their values are read as texts. -/
def joined (fs : List Formula) (c : Context) : Except Fault Value :=
  fs.mapM (outcome · c) >>= Function.joined

variable {c : Context} {fs : List Formula} {left right : Formula} {s : String} {v : Value}

lemma outcome_join (left right : Formula) :
    (binary .join left right).outcome c = (do
      let v ← left.outcome c
      let w ← right.outcome c
      let s ← v.toText
      let t ← w.toText
      return Value.text (s ++ t)) :=
  outcome_binary c .join left right

/-- A join has a text if both operands have one. -/
lemma outcome_join_eq_ok_iff : (binary .join left right).outcome c = .ok v ↔
    ∃ s t, left.shown c = .ok s ∧ right.shown c = .ok t ∧ v = .text (s ++ t) := by
  simp only [outcome_join, shown, bind_eq_ok_iff]
  constructor
  · rintro ⟨u, hu, w, hw, s, hs, t, ht, hv⟩
    cases hv
    exact ⟨s, t, ⟨u, hu, hs⟩, ⟨w, hw, ht⟩, rfl⟩
  · rintro ⟨s, t, ⟨u, hu, hs⟩, ⟨w, hw, ht⟩, rfl⟩
    exact ⟨u, hu, w, hw, s, hs, t, ht, rfl⟩

lemma outcome_join_eq_map : (binary .join left right).outcome c =
    ((binary .join left right).shown c).map Value.text := by
  rw [shown]
  cases hv : (binary .join left right).outcome c with
  | error fault => rfl
  | ok v =>
    obtain ⟨s, t, -, -, rfl⟩ := outcome_join_eq_ok_iff.mp hv
    rfl

lemma shown_join_eq_ok_iff : (binary .join left right).shown c = .ok s ↔
    ∃ a b, left.shown c = .ok a ∧ right.shown c = .ok b ∧ s = a ++ b := by
  rw [shown, bind_eq_ok_iff]
  simp only [outcome_join_eq_ok_iff]
  constructor
  · rintro ⟨_, ⟨a, b, ha, hb, rfl⟩, hs⟩
    cases hs
    exact ⟨a, b, ha, hb, rfl⟩
  · rintro ⟨a, b, ha, hb, rfl⟩
    exact ⟨_, ⟨a, b, ha, hb, rfl⟩, rfl⟩

/-- Two functions join their arguments, whatever these are. -/
lemma outcome_joining {f : Function} (hf : f ∈ [Function.concatenate, .concat])
    (args : List Formula) : (call f.name args).outcome c = joined args c := by
  have hrule : f.meaning c.clock.everyday = .ofValues (.any Function.joined) := by
    obtain rfl | rfl := by simpa using hf
    · rfl
    · rfl
  rw [outcome_call_ofValues c hrule]
  rfl

/-- Whether texts are looked for at the end or one by one, they are found in the same cases. -/
lemma texts_iff {ss : List String} :
    (∃ vs, fs.mapM (outcome · c) = .ok vs ∧ vs.mapM Value.toText = .ok ss) ↔
      fs.mapM (shown · c) = .ok ss := by
  simp only [mapM_eq_ok_iff]
  constructor
  · rintro ⟨vs, hvs, hss⟩
    induction hvs generalizing ss with
    | nil =>
      cases hss
      exact .nil
    | cons hv _ ih =>
      cases hss with
      | cons hs hss => exact .cons (bind_eq_ok_iff.mpr ⟨_, hv, hs⟩) (ih hss)
  · intro hss
    induction hss with
    | nil => exact ⟨[], .nil, .nil⟩
    | cons hs _ ih =>
      obtain ⟨v, hv, hs⟩ := bind_eq_ok_iff.mp hs
      obtain ⟨vs, hvs, hss⟩ := ih
      exact ⟨v :: vs, .cons hv hvs, .cons hs hss⟩

lemma joined_eq_ok_iff :
    joined fs c = .ok v ↔ ∃ ss, fs.mapM (shown · c) = .ok ss ∧ v = .text (String.join ss) := by
  simp only [joined, Function.joined, bind_eq_ok_iff, ← texts_iff]
  constructor
  · rintro ⟨vs, hvs, ss, hss, hv⟩
    cases hv
    exact ⟨ss, ⟨vs, hvs, hss⟩, rfl⟩
  · rintro ⟨ss, ⟨vs, hvs, hss⟩, rfl⟩
    exact ⟨vs, hvs, ss, hss, rfl⟩

/-! ### Where all values have texts -/

/-- No formula has a value without a text. -/
def HaveTexts (fs : List Formula) (c : Context) : Prop :=
  ∀ f ∈ fs, ∀ v, f.outcome c = .ok v → v.hasText = true

lemma shown_eq_map {f : Formula} (h : ∀ v, f.outcome c = .ok v → v.hasText = true) :
    f.shown c = (f.outcome c).map Value.shown := by
  rw [shown]
  cases hf : f.outcome c with
  | error fault => rfl
  | ok v => exact Value.toText_of_hasText (h v hf)

lemma joined_of_values {vs : List Value} (hvs : fs.mapM (outcome · c) = .ok vs) :
    joined fs c = (vs.mapM Value.toText).map fun ss => .text (String.join ss) := by
  rw [joined, hvs]
  show (vs.mapM Value.toText >>= fun ss => pure (Value.text (String.join ss))) = _
  cases vs.mapM Value.toText with
  | error fault => rfl
  | ok ss => rfl

/-- A first operand with a text may show it before the second one is evaluated. -/
lemma shown_join (h : ∀ v, left.outcome c = .ok v → v.hasText = true) :
    (binary .join left right).shown c = (do
      let s ← left.shown c
      let t ← right.shown c
      return s ++ t) := by
  rw [shown, outcome_join, shown_eq_map h, shown]
  cases hv : left.outcome c with
  | error fault => rfl
  | ok v =>
    have hs := Value.toText_of_hasText (h v hv)
    cases right.outcome c with
    | error fault => rfl
    | ok w =>
      simp only [bind, Except.bind, Except.map, hs]
      cases w.toText with
      | error fault => rfl
      | ok t => rfl

/-- Where all values have texts, these may be looked for one by one. -/
lemma joined_of_haveTexts (h : HaveTexts fs c) :
    joined fs c = (fs.mapM (shown · c)).map fun ss => .text (String.join ss) := by
  rw [mapM_congr fun f hf => shown_eq_map (h f hf), mapM_map]
  cases hvs : fs.mapM (outcome · c) with
  | error fault =>
    rw [joined, hvs]
    rfl
  | ok vs =>
    have htexts : ∀ v ∈ vs, v.hasText = true := by
      intro v hv
      obtain ⟨f, hf, hfv⟩ := exists_of_mem_of_forall₂ (forall₂_of_mapM hvs) hv
      exact h f hf v hfv
    rw [joined_of_values hvs, mapM_toText htexts]
    rfl

/-! ### Operand by operand -/

/-- The operator comes to an operand behind the second one that fails, but fails itself before that:
of the operands in front one has a value without a text. -/
def IsCutShort (outcomes : List (Except Fault Value)) (fault : Fault) : Prop :=
  ∃ before after, outcomes = before ++ .error fault :: after ∧ 2 ≤ before.length ∧
    (∀ x ∈ before, ∃ v, x = .ok v) ∧ ∃ v, .ok v ∈ before ∧ v.hasText = false

/-- A join fails with its first operand. -/
lemma outcome_foldl_of_error {fault : Fault} {first : Formula} (h : first.outcome c = .error fault)
    (rest : List Formula) : (rest.foldl (binary .join) first).outcome c = .error fault := by
  induction rest generalizing first with
  | nil => exact h
  | cons second rest ih =>
    refine ih ?_
    rw [outcome_join, h]
    rfl

/-- Operands that have values join to the texts of these. -/
lemma shown_foldl_of_values {first : Formula} {rest : List Formula} {vs : List Value}
    (hvs : (first :: rest).mapM (outcome · c) = .ok vs) :
    (rest.foldl (binary .join) first).shown c = (vs.mapM Value.toText).map String.join := by
  obtain ⟨v, vs, hv, hrest, rfl⟩ := List.forall₂_cons_left_iff.mp (mapM_eq_ok_iff.mp hvs)
  clear hvs
  induction hrest generalizing first v with
  | nil =>
    rw [List.foldl_nil, shown, hv, List.mapM_cons]
    show v.toText = _
    cases v.toText with
    | error fault => rfl
    | ok s => exact congrArg Except.ok (by simp)
  | @cons second w rest vs hw _ ih =>
    have hjoin : (binary .join first second).outcome c = (do
        let s ← v.toText
        let t ← w.toText
        return Value.text (s ++ t)) := by
      rw [outcome_join, hv]
      simp only [bind, Except.bind, hw]
    rw [List.foldl_cons, List.mapM_cons, List.mapM_cons]
    cases hs : v.toText with
    | error fault =>
      rw [hs] at hjoin
      rw [shown, outcome_foldl_of_error hjoin]
      rfl
    | ok s =>
      cases ht : w.toText with
      | error fault =>
        rw [hs, ht] at hjoin
        rw [shown, outcome_foldl_of_error hjoin]
        rfl
      | ok t =>
        rw [hs, ht] at hjoin
        rw [ih _ hjoin, List.mapM_cons]
        show ((Value.text (s ++ t)).toText >>= _).map _ = _
        cases vs.mapM Value.toText with
        | error fault => rfl
        | ok ss => exact congrArg Except.ok (by simp [String.append_assoc])

/-- More than one operand joined from the left are a text. -/
lemma outcome_foldl {first : Formula} {rest : List Formula} (hrest : rest ≠ []) :
    (rest.foldl (binary .join) first).outcome c =
      ((rest.foldl (binary .join) first).shown c).map Value.text := by
  obtain ⟨front, last, rfl⟩ := List.eq_nil_or_concat rest |>.resolve_left hrest
  rw [List.concat_eq_append, List.foldl_concat]
  exact outcome_join_eq_map

/-- In front of an operand that fails stands a text, or a fault if there is a value without one. -/
lemma outcome_foldl_of_values {first : Formula} {rest : List Formula} {vs : List Value}
    (hvs : (first :: rest).mapM (outcome · c) = .ok vs) (hrest : rest ≠ []) :
    (rest.foldl (binary .join) first).outcome c = joined (first :: rest) c := by
  rw [outcome_foldl hrest, shown_foldl_of_values hvs, joined_of_values hvs]
  cases vs.mapM Value.toText with
  | error fault => rfl
  | ok ss => rfl

/-- Joined from the left, operands fail as one of them does if those in front of it come to
something, and as those in front of it do otherwise. -/
lemma outcome_foldl_append {first p : Formula} {fault : Fault} (hp : p.outcome c = .error fault)
    (before after : List Formula) :
    ((before ++ p :: after).foldl (binary .join) first).outcome c =
      (before.foldl (binary .join) first).outcome c >>= fun _ => .error fault := by
  rw [List.foldl_append, List.foldl_cons]
  have hjoin : (binary .join (before.foldl (binary .join) first) p).outcome c =
      (before.foldl (binary .join) first).outcome c >>= fun _ => .error fault := by
    rw [outcome_join, hp]
    rfl
  cases hfront : (before.foldl (binary .join) first).outcome c with
  | error fault' =>
    rw [hfront] at hjoin
    exact outcome_foldl_of_error hjoin after
  | ok v =>
    rw [hfront] at hjoin
    exact outcome_foldl_of_error hjoin after

/-- If the operator is cut short, then a function fails as the operand, and the operator for the
value without a text. -/
lemma outcome_of_isCutShort {first : Formula} {rest : List Formula} {fault : Fault}
    (h : IsCutShort ((first :: rest).map (outcome · c)) fault) :
    joined (first :: rest) c = .error fault ∧
      (rest.foldl (binary .join) first).outcome c = .error (.noValue .digits) := by
  obtain ⟨before, after, houtcomes, hlength, hvalues, v, hv, hnone⟩ := h
  obtain ⟨front, back, hfront, rfl, hback⟩ := List.map_eq_append_iff.mp houtcomes
  obtain ⟨p, after, rfl, hp, rfl⟩ := List.map_eq_cons_iff.mp hback
  have hall : ∀ q ∈ front, ∃ v, q.outcome c = .ok v :=
    fun q hq => hvalues _ (List.mem_map_of_mem hq)
  constructor
  · rw [joined, hfront, mapM_eq_error_of_prefix hall hp]
    rfl
  · obtain ⟨vs, hvs, -⟩ := exists_mapM_eq_ok hall
    have htextless : ∃ v ∈ vs, v.hasText = false := by
      obtain ⟨q, hq, hqv⟩ := List.mem_map.mp hv
      obtain ⟨w, hw, hqw⟩ := exists_of_mem_of_forall₂ (forall₂_of_mapM hvs).flip hq
      obtain rfl : w = v := Except.ok.inj (hqw.symm.trans hqv)
      exact ⟨w, hw, hnone⟩
    cases front with
    | nil => simp at hlength
    | cons first' front =>
      rw [List.cons_append, List.cons.injEq] at hfront
      obtain ⟨rfl, rfl⟩ := hfront
      have hne : front ≠ [] := by
        rintro rfl
        simp at hlength
      rw [outcome_foldl_append hp, outcome_foldl_of_values hvs hne, joined_of_values hvs,
        mapM_toText_of_textless htextless]
      rfl

/-- If the operator is not cut short, it does as a function. -/
lemma outcome_of_not_isCutShort {first : Formula} {rest : List Formula} (hrest : rest ≠ [])
    (h : ∀ fault, ¬ IsCutShort ((first :: rest).map (outcome · c)) fault) :
    (rest.foldl (binary .join) first).outcome c = joined (first :: rest) c := by
  obtain hall | ⟨before, p, after, fault, hsplit, hvalues, hp⟩ :=
    forall_ok_or_exists_first_error (outcome · c) (first :: rest)
  · obtain ⟨vs, hvs, -⟩ := exists_mapM_eq_ok hall
    exact outcome_foldl_of_values hvs hrest
  have hjoined : joined (first :: rest) c = .error fault := by
    rw [joined, hsplit, mapM_eq_error_of_prefix hvalues hp]
    rfl
  rw [hjoined]
  cases before with
  | nil =>
    rw [List.nil_append, List.cons.injEq] at hsplit
    obtain ⟨rfl, rfl⟩ := hsplit
    exact outcome_foldl_of_error hp rest
  | cons first' before =>
    rw [List.cons_append, List.cons.injEq] at hsplit
    obtain ⟨rfl, rfl⟩ := hsplit
    obtain ⟨v, hv⟩ : ∃ v, (before.foldl (binary .join) first).outcome c = .ok v := by
      by_cases hne : before = []
      · rw [hne]
        exact hvalues first List.mem_cons_self
      obtain ⟨vs, hvs, -⟩ := exists_mapM_eq_ok hvalues
      have htexts : ∀ v ∈ vs, v.hasText = true := by
        intro v hv
        by_contra hnone
        obtain ⟨q, hq, hqv⟩ := exists_of_mem_of_forall₂ (forall₂_of_mapM hvs) hv
        refine h fault ⟨(first :: before).map (outcome · c), after.map (outcome · c), ?_, ?_, ?_,
          v, hqv ▸ List.mem_map_of_mem hq, by simpa using hnone⟩
        · simp [hp]
        · have := List.length_pos_iff.mpr hne
          simp only [List.length_map, List.length_cons]
          omega
        · rintro x hx
          obtain ⟨q, hq, rfl⟩ := List.mem_map.mp hx
          exact hvalues q hq
      rw [outcome_foldl_of_values hvs hne, joined_of_values hvs, mapM_toText htexts]
      exact ⟨_, rfl⟩
    rw [outcome_foldl_append hp, hv]
    rfl

/-! ## Groupings -/

/-- Operands of joins, and how they are grouped. -/
inductive Grouping where
  | operand (part : Part)
  | join (left right : Grouping)
  /-- Brackets that need not be there. -/
  | bracketed (inner : Grouping)

namespace Grouping

/-- The formula of a grouping. -/
def formula : Grouping → Formula
  | operand part => part.2
  | join left right => .binary .join left.formula right.formula
  | bracketed inner => inner.formula

/-- The operands of a grouping, from left to right. -/
def operands : Grouping → List Part
  | operand part => [part]
  | join left right => left.operands ++ right.operands
  | bracketed inner => inner.operands

/-- Whether a grouping is a join that does not stand in brackets. -/
def isJoin : Grouping → Bool
  | join _ _ => true
  | operand _ | bracketed _ => false

/-- The lexemes of a grouping, with brackets where a right operand needs them. -/
def lexemes : Grouping → List Lexeme
  | operand part => part.1
  | join left right => left.lexemes ++ .operator .join ::
      (if right.isJoin then .openParen :: (right.lexemes ++ [.closeParen]) else right.lexemes)
  | bracketed inner => .openParen :: (inner.lexemes ++ [.closeParen])

/-- The grouping without any brackets. -/
def inTurn (first : Part) (rest : List Part) : Grouping :=
  rest.foldl (fun left part => join left (operand part)) (operand first)

lemma operands_inTurn (first : Part) (rest : List Part) :
    (inTurn first rest).operands = first :: rest := by
  induction rest using List.reverseRecOn with
  | nil => rfl
  | append_singleton rest part ih =>
    rw [inTurn, List.foldl_concat]
    show (inTurn first rest).operands ++ [part] = _
    rw [ih, List.cons_append]

lemma lexemes_inTurn (first : Part) (rest : List Part) :
    (inTurn first rest).lexemes = first.1 ++ rest.flatMap (.operator .join :: ·.1) := by
  induction rest using List.reverseRecOn with
  | nil => simp [inTurn, lexemes]
  | append_singleton rest part ih =>
    rw [inTurn, List.foldl_concat]
    show (inTurn first rest).lexemes ++ .operator .join :: part.1 = _
    simp [ih]

variable {g : Grouping}

/-- What a grouping is written with is a phrase for its formula, in which an operand counts as one
of its own rank only if it is no bare join. -/
lemma derives_lexemes (h : ∀ part ∈ g.operands, Derives (.operators .multiplicative) part.1 part.2) :
    Derives (.operators .additive) g.lexemes g.formula ∧
      (g.isJoin = false → Derives (.operators .multiplicative) g.lexemes g.formula) := by
  induction g with
  | operand part =>
    have hpart := h part List.mem_cons_self
    exact ⟨.tighter hpart, fun _ => hpart⟩
  | join left right ihleft ihright =>
    obtain ⟨hleft, -⟩ := ihleft fun part hpart => h part (List.mem_append_left _ hpart)
    obtain ⟨hright, htight⟩ := ihright fun part hpart => h part (List.mem_append_right _ hpart)
    refine ⟨?_, nofun⟩
    rw [lexemes, formula]
    apply Derives.binary rfl hleft
    -- Without brackets, a join on the right would be taken apart by the operator before it.
    by_cases hjoin : right.isJoin = true
    · rw [if_pos hjoin]
      exact (Derives.grouped hright.sentence).mono (by decide)
    · rw [if_neg hjoin]
      exact htight (by simpa using hjoin)
  | bracketed inner ih =>
    have hgrouped := Derives.grouped (ih h).1.sentence
    exact ⟨hgrouped.mono (by decide), fun _ => hgrouped.mono (by decide)⟩

/-- A grouping has a text if its operands have texts, which it shows one after the other. -/
lemma shown_formula_eq_ok_iff {s : String} : g.formula.shown c = .ok s ↔
    ∃ ss, (g.operands.map Prod.snd).mapM (shown · c) = .ok ss ∧ s = String.join ss := by
  induction g generalizing s with
  | operand part =>
    simp only [formula, operands, mapM_eq_ok_iff]
    constructor
    · exact fun hs => ⟨[s], .cons hs .nil, by simp⟩
    · rintro ⟨_, hss, rfl⟩
      obtain ⟨t, _, ht, hnil, rfl⟩ := List.forall₂_cons_left_iff.mp hss
      cases hnil
      simpa using ht
  | join left right ihleft ihright =>
    rw [formula, shown_join_eq_ok_iff, operands, List.map_append, List.mapM_append]
    simp only [ihleft, ihright, bind_eq_ok_iff]
    constructor
    · rintro ⟨_, _, ⟨ss, hss, rfl⟩, ⟨ts, hts, rfl⟩, rfl⟩
      exact ⟨ss ++ ts, ⟨ss, hss, ts, hts, rfl⟩, String.join_append.symm⟩
    · rintro ⟨_, ⟨ss, hss, ts, hts, happend⟩, rfl⟩
      cases happend
      exact ⟨_, _, ⟨ss, hss, rfl⟩, ⟨ts, hts, rfl⟩, String.join_append⟩
  | bracketed inner ih => exact ih

/-- A grouping of more than one operand is a text. -/
lemma outcome_formula (h : g.operands.length ≠ 1) :
    g.formula.outcome c = (g.formula.shown c).map Value.text := by
  induction g with
  | operand part => exact absurd rfl h
  | join left right => exact outcome_join_eq_map
  | bracketed inner ih => exact ih h

/-- A grouping has the text that its operands join to. -/
lemma outcome_formula_eq_ok_iff {v : Value} (h : g.operands.length ≠ 1) :
    g.formula.outcome c = .ok v ↔ joined (g.operands.map Prod.snd) c = .ok v := by
  rw [outcome_formula h, joined_eq_ok_iff]
  constructor
  · intro hv
    cases hs : g.formula.shown c with
    | error fault =>
      rw [hs] at hv
      cases hv
    | ok s =>
      rw [hs] at hv
      cases hv
      obtain ⟨ss, hss, rfl⟩ := shown_formula_eq_ok_iff.mp hs
      exact ⟨ss, hss, rfl⟩
  · rintro ⟨ss, hss, rfl⟩
    rw [shown_formula_eq_ok_iff.mpr ⟨ss, hss, rfl⟩]
    rfl

/-- Where all operands have texts, so has the grouping. -/
lemma hasText_of_outcome (h : HaveTexts (g.operands.map Prod.snd) c) :
    ∀ v, g.formula.outcome c = .ok v → v.hasText = true := by
  induction g with
  | operand part => exact h part.2 List.mem_cons_self
  | join left right =>
    intro v hv
    obtain ⟨s, t, -, -, rfl⟩ := outcome_join_eq_ok_iff.mp hv
    rfl
  | bracketed inner ih => exact ih h

/-- Where all operands have texts, a grouping looks for them one after the other. -/
lemma shown_formula (h : HaveTexts (g.operands.map Prod.snd) c) :
    g.formula.shown c = ((g.operands.map Prod.snd).mapM (shown · c)).map String.join := by
  induction g with
  | operand part =>
    show part.2.shown c = ([part.2].mapM (shown · c)).map String.join
    rw [List.mapM_cons, List.mapM_nil]
    cases part.2.shown c with
    | error fault => rfl
    | ok s => exact congrArg Except.ok (by simp)
  | join left right ihleft ihright =>
    rw [operands, List.map_append] at h ⊢
    have hleft : HaveTexts (left.operands.map Prod.snd) c :=
      fun f hf => h f (List.mem_append_left _ hf)
    have hright : HaveTexts (right.operands.map Prod.snd) c :=
      fun f hf => h f (List.mem_append_right _ hf)
    rw [formula, shown_join (hasText_of_outcome hleft), ihleft hleft, ihright hright,
      List.mapM_append]
    cases (left.operands.map Prod.snd).mapM (shown · c) with
    | error fault => rfl
    | ok ss =>
      cases (right.operands.map Prod.snd).mapM (shown · c) with
      | error fault => rfl
      | ok ts => exact congrArg Except.ok String.join_append.symm
  | bracketed inner ih => exact ih h

/-- No operand is higher than the formula of a grouping. -/
lemma height_le_formula {part : Part} (hpart : part ∈ g.operands) :
    part.2.height ≤ g.formula.height := by
  induction g with
  | operand other =>
    obtain rfl : part = other := by simpa [operands] using hpart
    exact Nat.le_refl _
  | join left right ihleft ihright =>
    rw [formula, height]
    obtain hleft | hright := List.mem_append.mp hpart
    · have hle := ihleft hleft
      omega
    · have hle := ihright hright
      omega
  | bracketed inner ih => exact ih hpart

/-- Where there is room for a grouping, there is room for its operands. -/
lemma hasRoom_of_formula (g : Grouping) (hroom : c.HasRoom g.formula) :
    ∀ f ∈ g.operands.map Prod.snd, c.HasRoom f := by
  intro f hf
  obtain ⟨part, hpart, rfl⟩ := List.mem_map.mp hf
  exact hroom.of_le (height_le_formula hpart)

lemma formula_inTurn (first : Part) (rest : List Part) :
    (inTurn first rest).formula = (rest.map Prod.snd).foldl (binary .join) first.2 := by
  induction rest using List.reverseRecOn with
  | nil => rfl
  | append_singleton rest part ih =>
    rw [inTurn, List.foldl_concat, List.map_append, List.map_singleton, List.foldl_concat, ← ih]
    rfl

end Grouping

/-! ## One meaning -/

/-- With room for every operand, what they join to is told by their values in the same context. -/
lemma joined_eq_eval {fs : List Formula} (hroom : ∀ f ∈ fs, c.HasRoom f) :
    joined fs c = fs.mapM (eval · c) >>= Function.joined := by
  rw [joined, mapM_congr fun f hf => eval_eq_outcome (hroom f hf)]

/-- **Joins.**  Both functions that join texts evaluate their arguments in order and then join the
texts of the values, or fail as the first of these steps that fails.  Every grouping of the operator
has the same text in the same cases; and where no operand has a value without a text, it also fails
in the same way.  A grouping is read from what it is written with.

Where nothing is in brackets, the operands are joined from the left.  Then the operator differs from
the functions exactly if it is cut short: it fails for a value without a text, and they fail for an
operand behind it. -/
theorem eval_joins {parts : List Part} (hmany : 2 ≤ parts.length) (c : Context) :
    (∀ f ∈ [Function.concatenate, .concat], c.HasRoom (call f.name (parts.map Prod.snd)) →
      (call f.name (parts.map Prod.snd)).eval c =
        (parts.map Prod.snd).mapM (eval · c) >>= Function.joined) ∧
    (∀ g : Grouping, g.operands = parts →
      (c.HasRoom g.formula →
        (∀ v, g.formula.eval c = .ok v ↔
          (parts.map Prod.snd).mapM (eval · c) >>= Function.joined = .ok v) ∧
        ((∀ f ∈ parts.map Prod.snd, ∀ v, f.eval c = .ok v → v.hasText = true) →
          g.formula.eval c = (parts.map Prod.snd).mapM (eval · c) >>= Function.joined)) ∧
      ((∀ part ∈ parts, Derives (.operators .multiplicative) part.1 part.2) →
        ∀ list : TokenList, Formula.lexemes list.tokens = g.lexemes → ∀ depth,
          ofTokensWithin depth list = .ok g.formula ∨
            ofTokensWithin depth list = .error .tooDeep ∧
              depth < 2 * list.tokens.length + 2)) ∧
    ∀ first rest, parts = first :: rest →
      (Grouping.inTurn first rest).operands = parts ∧
      (Grouping.inTurn first rest).formula = (rest.map Prod.snd).foldl (binary .join) first.2 ∧
      (Grouping.inTurn first rest).lexemes =
        first.1 ++ rest.flatMap (.operator .join :: ·.1) ∧
      (c.HasRoom (Grouping.inTurn first rest).formula →
        (∀ fault, IsCutShort ((parts.map Prod.snd).map (eval · c)) fault →
          (parts.map Prod.snd).mapM (eval · c) >>= Function.joined = .error fault ∧
            (Grouping.inTurn first rest).formula.eval c = .error (.noValue .digits)) ∧
        ((∀ fault, ¬ IsCutShort ((parts.map Prod.snd).map (eval · c)) fault) →
          (Grouping.inTurn first rest).formula.eval c =
            (parts.map Prod.snd).mapM (eval · c) >>= Function.joined)) := by
  refine ⟨?_, ?_, ?_⟩
  · intro f hf hroom
    have hrooms : ∀ g ∈ parts.map Prod.snd, c.HasRoom g :=
      fun g hg => hasRoom_of_mem_parts (f := call f.name (parts.map Prod.snd)) hg hroom
    rw [eval_eq_outcome hroom, outcome_joining hf, joined_eq_eval hrooms]
  · rintro g rfl
    constructor
    · intro hroom
      have hrooms := g.hasRoom_of_formula hroom
      rw [eval_eq_outcome hroom, ← joined_eq_eval hrooms]
      refine ⟨fun v => Grouping.outcome_formula_eq_ok_iff (by omega), fun htexts => ?_⟩
      have htexts' : HaveTexts (g.operands.map Prod.snd) c :=
        fun f hf v hv => htexts f hf v ((eval_eq_outcome (hrooms f hf)).trans hv)
      rw [Grouping.outcome_formula (by omega), Grouping.shown_formula htexts',
        joined_of_haveTexts htexts']
      cases (g.operands.map Prod.snd).mapM (shown · c) with
      | error fault => rfl
      | ok ss => rfl
    · intro hparts list hlist depth
      have hphrase := (Grouping.derives_lexemes hparts).1.sentence
      rw [← hlist] at hphrase
      exact ofTokensWithin_of_sentence hphrase depth
  · rintro first rest rfl
    refine ⟨Grouping.operands_inTurn first rest, Grouping.formula_inTurn first rest,
      Grouping.lexemes_inTurn first rest, fun hroom => ?_⟩
    have hrooms : ∀ f ∈ (first :: rest).map Prod.snd, c.HasRoom f := by
      have hall := (Grouping.inTurn first rest).hasRoom_of_formula hroom
      rwa [Grouping.operands_inTurn] at hall
    have houtcomes : ((first :: rest).map Prod.snd).map (eval · c) =
        ((first :: rest).map Prod.snd).map (outcome · c) :=
      List.map_congr_left fun f hf => eval_eq_outcome (hrooms f hf)
    rw [eval_eq_outcome hroom, Grouping.formula_inTurn, ← joined_eq_eval hrooms, houtcomes]
    refine ⟨fun fault => outcome_of_isCutShort, outcome_of_not_isCutShort ?_⟩
    rintro hnil
    rw [List.map_eq_nil_iff] at hnil
    simp [hnil] at hmany

/-- A whole number that is too long for a text by one digit. -/
def longInteger : Int := 10 ^ digitLimit

lemma hasText_longInteger : (Value.integer longInteger).hasText = false := by
  refine Bool.eq_false_iff.mpr fun h => ?_
  have hlt := (Value.isShowable_iff longInteger).mp h
  rw [longInteger, Int.natAbs_pow, show (10 : Int).natAbs = 10 from rfl] at hlt
  exact Nat.lt_irrefl _ hlt

/-- A row with a whole number that is too long. -/
def longContext : Context :=
  { Context.plain 3 with columns := [⟨"a", "A", .number⟩], row := [("a", .integer longInteger)] }

/-- Three operands, of which the first is too long and the last is no column. -/
def longParts : List Part :=
  [([.columnRef "a"], column "a"), ([.string "!"], text "!"), ([.columnRef "b"], column "b")]

/-- The operator fails for the first operand, the function for the last one. -/
theorem eval_joins_longInteger :
    2 ≤ longParts.length ∧
    (call Function.concat.name [column "a", text "!", column "b"]).eval longContext =
      .error (.unknownColumn "b") ∧
    (binary .join (binary .join (column "a") (text "!")) (column "b")).eval longContext =
      .error (.noValue .digits) := by
  have hmany : 2 ≤ longParts.length := by decide
  obtain ⟨hcall, -, hturn⟩ := eval_joins hmany longContext
  obtain ⟨-, -, -, hcut⟩ := hturn _ _ rfl
  have hshort : IsCutShort ((longParts.map Prod.snd).map (eval · longContext))
      (.unknownColumn "b") := by
    refine ⟨[.ok (.integer longInteger), .ok (.text "!")], [], rfl, Nat.le_refl _, ?_,
      .integer longInteger, List.mem_cons_self, hasText_longInteger⟩
    simp
  obtain ⟨hfunction, hoperator⟩ := (hcut (by decide)).1 _ hshort
  exact ⟨hmany, (hcall .concat (by simp) (by decide)).trans hfunction, hoperator⟩

end Formula

end TableFormula
