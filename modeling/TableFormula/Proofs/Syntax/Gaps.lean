import TableFormula.Proofs.Syntax.Spans

/-!
# Blanks before tokens

Blanks that are put before a token only move it and the tokens behind it.  A lexeme before them
looks at what follows it in one of two ways, and neither of them tells the texts with and without
the blanks apart: it looks whether some printed characters come next, and no printed character goes
past the blanks (`prefix_of_gap`), or it looks for an opening bracket behind any blanks
(`called_gap`).

The induction is along the steps of the scan up to the token.  A quoted text or reference that is
not closed takes up all that is left, so none of them stands before the token.
-/

namespace TableFormula

open Text
open Lexeme (Covers Significant StartsFraction Complete)

/-- A token that stands some characters later. -/
def Token.shift (n : Nat) (token : Token) : Token :=
  { token with position := token.position + n }

/-! ## What a lexeme sees of a gap -/

section Gap

variable {before after blanks word : List Char} {x : Lexeme}
  (hblanks : ∀ c ∈ blanks, isBlank c = true)

include hblanks

/-- Printed characters that come next with some blanks in the text come next without them. -/
lemma prefix_of_gap (hword : ∀ c ∈ word, Printed c) (h : word <+: before ++ (blanks ++ after)) :
    word <+: before ++ after := by
  induction before generalizing word with
  | nil =>
    rcases blanks with _ | ⟨c, blanks⟩
    · exact h
    · rcases word with _ | ⟨d, word⟩
      · exact List.nil_prefix
      · obtain ⟨rfl, -⟩ := List.cons_prefix_cons.mp h
        have hblank := hblanks d List.mem_cons_self
        rw [(hword d List.mem_cons_self).isBlank_eq_false] at hblank
        cases hblank
  | cons d before ih =>
    rcases word with _ | ⟨c, word⟩
    · exact List.nil_prefix
    · obtain ⟨rfl, hothers⟩ := List.cons_prefix_cons.mp h
      exact List.cons_prefix_cons.mpr
        ⟨rfl, ih (fun d hd => hword d (List.mem_cons_of_mem _ hd)) hothers⟩

lemma head?_of_gap {c : Char} (hc : Printed c) (h : c ∈ (before ++ (blanks ++ after)).head?) :
    c ∈ (before ++ after).head? := by
  obtain ⟨others, hothers⟩ := List.head?_eq_some_iff.mp h
  have hprefix : [c] <+: before ++ (blanks ++ after) := ⟨others, hothers.symm⟩
  obtain ⟨others', hothers'⟩ := prefix_of_gap hblanks (by simpa using hc) hprefix
  exact List.head?_eq_some_iff.mpr ⟨others', hothers'.symm⟩

lemma stops_gap {p : Char → Bool} (hp : ∀ c, p c = true → Printed c)
    (h : ∀ c ∈ (before ++ after).head?, p c = false) :
    ∀ c ∈ (before ++ (blanks ++ after)).head?, p c = false := by
  intro c hc
  by_contra hpc
  rw [Bool.not_eq_false] at hpc
  rw [h c (head?_of_gap hblanks (hp c hpc) hc)] at hpc
  cases hpc

lemma startsFraction_of_gap (h : StartsFraction (before ++ (blanks ++ after))) :
    StartsFraction (before ++ after) := by
  obtain ⟨d, others, htext, hd⟩ := h
  have hprefix : ['.', d] <+: before ++ (blanks ++ after) := ⟨others, htext.symm⟩
  have hprinted : ∀ c ∈ ['.', d], Printed c := by
    intro c hc
    obtain rfl | rfl : c = '.' ∨ c = d := by simpa using hc
    · decide
    · exact printed_of_isDigit hd
  obtain ⟨others', hothers'⟩ := prefix_of_gap hblanks hprinted hprefix
  exact ⟨d, others', hothers'.symm, hd⟩

lemma significant_of_gap {c : Char} (h : Significant c (before ++ (blanks ++ after)).head?) :
    Significant c (before ++ after).head? := by
  obtain hpart | hmark | ⟨hpoint, d, hd, hdigit⟩ := h
  · exact .inl hpart
  · exact .inr (.inl hmark)
  · exact .inr (.inr ⟨hpoint, d, head?_of_gap hblanks (printed_of_isDigit hdigit) hd, hdigit⟩)

lemma complete_gap {op : Operator} (h : Complete op (before ++ after)) :
    Complete op (before ++ (blanks ++ after)) := by
  intro c hc longer hlonger hsymbol
  have hprinted : Printed c := by
    refine Lexeme.printed_of_mem_symbol hlonger ?_
    rw [hsymbol]
    exact List.mem_append_right _ List.mem_cons_self
  exact h c (head?_of_gap hblanks hprinted hc) longer hlonger hsymbol

/-- An opening bracket comes behind the blanks exactly if it comes without them. -/
lemma called_gap : Called (before ++ (blanks ++ after)) ↔ Called (before ++ after) := by
  simp only [Called, trimStart, @List.dropWhile_append _ isBlank before,
    List.dropWhile_append_of_pos hblanks]
  rcases before.dropWhile isBlank with _ | ⟨c, cs⟩
  · rfl
  · rfl

/-- A lexeme takes up the same if blanks are put in behind it, before characters that are left. -/
lemma Lexeme.Covers.gap (h : Covers x word (before ++ after)) (hafter : after ≠ []) :
    Covers x word (before ++ (blanks ++ after)) := by
  have hrest : before ++ after ≠ [] := fun hnil => hafter (List.append_eq_nil_iff.mp hnil).2
  generalize hgeneral : before ++ after = rest at h hrest
  cases h with
  | number literal hdigit hpoint =>
    subst hgeneral
    exact .number literal (stops_gap hblanks (fun _ => printed_of_isDigit) hdigit)
      fun hnil hfraction => hpoint hnil (startsFraction_of_gap hblanks hfraction)
  | quoted hquote hescapes => exact .quoted hquote hescapes _
  | unquoted => exact absurd rfl hrest
  | unescaped => exact absurd rfl hrest
  | bracketed hname => exact .bracketed hname _
  | unbracketed => exact absurd rfl hrest
  | openParen => exact .openParen _
  | closeParen => exact .closeParen _
  | comma => exact .comma _
  | operator hop hcomplete =>
    subst hgeneral
    exact .operator hop (complete_gap hblanks hcomplete)
  | name hstart hparts hend =>
    subst hgeneral
    rw [← ofName_congr (called_gap hblanks)]
    exact .name hstart hparts (stops_gap hblanks (fun _ => printed_of_isNamePart) hend)

end Gap

/-! ## Scans with a gap -/

namespace Cuts

variable {position : Nat} {cs blanks : List Char} {tokens earlier later : List Token}
  {token : Token}

/-- A text that begins later has its tokens later. -/
lemma shift (h : Cuts position cs tokens) (n : Nat) :
    Cuts (position + n) cs (tokens.map (Token.shift n)) := by
  induction h with
  | finish position => exact .finish _
  | dropped hc _ ih =>
    rw [Nat.add_right_comm] at ih
    exact .dropped hc ih
  | token hcovers _ ih =>
    rw [Nat.add_right_comm] at ih
    have htoken := Cuts.token hcovers ih
    rwa [Int.natCast_add] at htoken

lemma blanks_append (hblanks : ∀ c ∈ blanks, isBlank c = true)
    (h : Cuts (position + blanks.length) cs tokens) : Cuts position (blanks ++ cs) tokens := by
  rw [cuts_iff, scanFrom_blanks hblanks]
  exact h.eq_scanFrom

/-- Blanks before a token move it and the tokens behind it. -/
lemma gap (hblanks : ∀ c ∈ blanks, isBlank c = true)
    (h : Cuts position cs (earlier ++ token :: later)) :
    ∃ before after, cs = before ++ after ∧ after ≠ [] ∧
      token.position = position + before.length ∧
      Cuts position (before ++ (blanks ++ after))
        (earlier ++ (token :: later).map (Token.shift blanks.length)) := by
  generalize hgeneral : earlier ++ token :: later = tokens at h
  induction h generalizing earlier with
  | finish => simp at hgeneral
  | @dropped position c cs tokens hc _ ih =>
    obtain ⟨before, after, rfl, hafter, hposition, hcuts⟩ := ih hgeneral
    refine ⟨c :: before, after, rfl, hafter, ?_, ?_⟩
    · rw [hposition, List.length_cons]
      omega
    · exact .dropped (fun hsignificant => hc (significant_of_gap hblanks hsignificant)) hcuts
  | @token position x word rest tokens hcovers others ih =>
    rcases earlier with _ | ⟨first, earlier⟩
    · obtain ⟨rfl, rfl⟩ := List.cons.inj hgeneral
      refine ⟨[], word ++ rest, rfl, ?_, ?_, ?_⟩
      · obtain ⟨c, cs, rfl, -⟩ := hcovers.exists_cons
        exact List.cons_ne_nil _ _
      · simp
      · rw [List.nil_append]
        exact blanks_append hblanks ((Cuts.token hcovers others).shift blanks.length)
    · obtain ⟨rfl, hothers⟩ := List.cons.inj hgeneral
      obtain ⟨before, after, rfl, hafter, hposition, hcuts⟩ := ih hothers
      refine ⟨word ++ before, after, (List.append_assoc ..).symm, hafter, ?_, ?_⟩
      · rw [hposition, List.length_append]
        omega
      · rw [List.append_assoc]
        exact .token (hcovers.gap hblanks hafter) hcuts

end Cuts

/-- **Blanks before a token.**  If blanks are put before a token of a source, then the same lexemes
are read in the same order; the tokens before stay where they are, and this token, the ones behind
it and the end of the text move by the number of blanks. -/
theorem scan_gap {source : String} {earlier later : List Token} {token : Token}
    (htokens : (scan source).tokens = earlier ++ token :: later) {blanks : List Char}
    (hblanks : ∀ c ∈ blanks, isBlank c = true) :
    let place := token.position.toNat
    scan (String.ofList (source.toList.take place ++ blanks ++ source.toList.drop place)) =
      ⟨earlier ++ (token :: later).map (Token.shift blanks.length),
        (scan source).finish + blanks.length⟩ := by
  intro place
  have hcuts : Cuts 0 source.toList (earlier ++ token :: later) := cuts_iff.mpr htokens.symm
  obtain ⟨before, after, hsource, -, hposition, hgap⟩ := hcuts.gap hblanks
  have hplace : place = before.length := by omega
  rw [hplace, hsource, List.take_left, List.drop_left, scan, String.toList_ofList,
    List.append_assoc, ← hgap.eq_scanFrom, scan, hsource]
  congr 1
  simp only [List.length_append]
  omega

/-- The name `TRUE` is called with a space before the bracket, as without. -/
theorem scan_gap_of_call : scan "TRUE (" = ⟨[⟨.function "TRUE", 0⟩, ⟨.openParen, 5⟩], 6⟩ := by
  have htrue : Covers (Lexeme.ofName "TRUE".toList ['(']) "TRUE".toList ['('] :=
    .name (by decide) (List.all_eq_true.mp (by decide)) fun d hd => by cases hd; decide
  have hname : Lexeme.ofName "TRUE".toList ['('] = .function "TRUE" := by decide
  rw [hname] at htrue
  have hcuts : Cuts 0 "TRUE(".toList [⟨.function "TRUE", 0⟩, ⟨.openParen, 4⟩] :=
    .token htrue (.token (.openParen []) (.finish 5))
  have htokens : (scan "TRUE(").tokens = [⟨.function "TRUE", 0⟩] ++ ⟨.openParen, 4⟩ :: [] :=
    hcuts.eq_scanFrom.symm
  have hblanks : ∀ c ∈ [' '], isBlank c = true := List.all_eq_true.mp (by decide)
  have htext : String.ofList ("TRUE(".toList.take 4 ++ [' '] ++ "TRUE(".toList.drop 4) = "TRUE (" :=
    rfl
  have hfinish : (scan "TRUE(").finish = 5 := rfl
  have hgap := scan_gap htokens hblanks
  rw [hfinish] at hgap
  rw [← htext]
  exact hgap

end TableFormula
