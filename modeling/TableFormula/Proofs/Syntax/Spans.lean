import TableFormula.Proofs.Syntax.Lexis

/-!
# The spans of tokens

The scanner goes through a text from left to right.  `Cuts` says what it makes of the text, one rule
for each kind of step: it drops a character at which no lexeme begins, or it takes all characters of
a lexeme and makes them a token.  The rules speak of the text alone, and `cuts_iff` says that they
give the tokens of the scanner.

**Spans.**  A token takes up the characters from its position to the end of its lexeme, closing
quotes and brackets among them.  That the spans lie in the text one after the other, and that only
insignificant characters lie between them, is proved along the steps of a scan.
-/

namespace TableFormula

open Text
open Lexeme (Covers Significant)

variable {start position finish finish' : Nat} {cs : List Char} {token later : Token}
  {tokens : List Token}

/-! ## The steps of a scan -/

/-- What a text that begins at a position is cut into. -/
inductive Cuts : Nat → List Char → List Token → Prop where
  | finish (position : Nat) : Cuts position [] []
  | dropped {position : Nat} {c : Char} {cs : List Char} {tokens : List Token}
      (hc : ¬ Significant c cs.head?) (others : Cuts (position + 1) cs tokens) :
      Cuts position (c :: cs) tokens
  | token {position : Nat} {x : Lexeme} {word rest : List Char} {tokens : List Token}
      (hcovers : Covers x word rest) (others : Cuts (position + word.length) rest tokens) :
      Cuts position (word ++ rest) (⟨x, position⟩ :: tokens)

lemma not_significant_of_isBlank {c : Char} (h : isBlank c = true) :
    ¬ Significant c cs.head? := by
  intro hsignificant
  obtain ⟨x, word, rest, hword, hcovers⟩ := hsignificant.begins
  have hread := hcovers.read?_eq
  rw [← hword, Lexeme.read?_of_not_printed fun hprinted => by simp [hprinted.isBlank_eq_false] at h]
    at hread
  cases hread

lemma cuts_scanFrom (position : Nat) (cs : List Char) :
    Cuts position cs (scanFrom position cs) := by
  fun_induction scanFrom position cs with
  | case1 position => exact .finish position
  | case2 position c tail hc ih => exact .dropped (not_significant_of_isBlank hc) ih
  | case3 position c tail hc hnone ih =>
    refine .dropped (fun hsignificant => ?_) ih
    obtain ⟨x, word, rest, hword, hcovers⟩ := hsignificant.begins
    rw [hword, hcovers.read?_eq] at hnone
    cases hnone
  | case4 position c tail hc x rest hsome ih =>
    obtain ⟨word, hword, hcovers⟩ := Lexeme.read?_eq_some_iff.mp hsome
    rw [hword] at ih ⊢
    rw [List.length_append, Nat.add_sub_cancel] at ih ⊢
    exact .token hcovers ih

lemma Cuts.eq_scanFrom (h : Cuts position cs tokens) : tokens = scanFrom position cs := by
  induction h with
  | finish position => rw [scanFrom]
  | dropped hc _ ih =>
    rw [scanFrom]
    split
    · exact ih
    · split
      · exact ih
      · rename_i hsome
        rw [Lexeme.read?_of_not_significant hc] at hsome
        cases hsome
  | token hcovers _ ih => rw [scanFrom_word hcovers.read?_eq, ih]

/-- The scanner cuts a text by the rules, and there is no other way to cut it by them. -/
theorem cuts_iff : Cuts position cs tokens ↔ tokens = scanFrom position cs :=
  ⟨Cuts.eq_scanFrom, fun h => h ▸ cuts_scanFrom position cs⟩

/-! ## Where a token ends -/

/-- Where a token ends in a text that begins at some position: its lexeme takes up the characters
from the position of the token to there. -/
def Token.EndsAt (start : Nat) (cs : List Char) (token : Token) (finish : Nat) : Prop :=
  ∃ before word rest, cs = before ++ (word ++ rest) ∧ token.position = start + before.length ∧
    Covers token.lexeme word rest ∧ finish = start + before.length + word.length

namespace Token.EndsAt

lemma unique (h : token.EndsAt start cs finish) (h' : token.EndsAt start cs finish') :
    finish = finish' := by
  obtain ⟨before, word, rest, hcs, hposition, hcovers, rfl⟩ := h
  obtain ⟨before', word', rest', hcs', hposition', hcovers', rfl⟩ := h'
  have hlength : before.length = before'.length := by omega
  obtain ⟨rfl, htext⟩ := List.append_inj (hcs.symm.trans hcs') hlength
  rw [(hcovers.unique hcovers' htext).2.1]

/-- No span is empty, and all of it lies in the text. -/
lemma bounds (h : token.EndsAt start cs finish) :
    start ≤ token.position ∧ token.position < finish ∧ finish ≤ start + cs.length := by
  obtain ⟨before, word, rest, rfl, hposition, hcovers, rfl⟩ := h
  have hpos := hcovers.length_pos
  simp only [List.length_append]
  omega

lemma append_left (before : List Char) (h : token.EndsAt (start + before.length) cs finish) :
    token.EndsAt start (before ++ cs) finish := by
  obtain ⟨others, word, rest, rfl, hposition, hcovers, rfl⟩ := h
  refine ⟨before ++ others, word, rest, (List.append_assoc ..).symm, ?_, hcovers, ?_⟩ <;>
    simp only [List.length_append] <;> omega

end Token.EndsAt

lemma Lexeme.Covers.endsAt {x : Lexeme} {word rest : List Char} (h : Covers x word rest)
    (start : Nat) : Token.EndsAt start (word ++ rest) ⟨x, start⟩ (start + word.length) :=
  ⟨[], word, rest, rfl, rfl, h, rfl⟩

/-! ## The spans along a scan -/

namespace Cuts

/-- Every token of a text has an end there. -/
lemma exists_endsAt (h : Cuts start cs tokens) :
    ∀ token ∈ tokens, ∃ finish, token.EndsAt start cs finish := by
  induction h with
  | finish => exact nofun
  | @dropped position c cs tokens _ _ ih =>
    intro token htoken
    obtain ⟨finish, hfinish⟩ := ih token htoken
    exact ⟨finish, hfinish.append_left [c]⟩
  | token hcovers _ ih =>
    intro token htoken
    obtain rfl | hothers := List.mem_cons.mp htoken
    · exact ⟨_, hcovers.endsAt _⟩
    · obtain ⟨finish, hfinish⟩ := ih token hothers
      exact ⟨finish, hfinish.append_left _⟩

/-- The ends in a later part of a text are ends in the whole text, and no token has two. -/
lemma pairwise_append_left (before : List Char) (h : Cuts (start + before.length) cs tokens)
    (hpairwise : tokens.Pairwise fun token later => ∀ finish : Nat,
      token.EndsAt (start + before.length) cs finish → (finish : Int) ≤ later.position) :
    tokens.Pairwise fun token later => ∀ finish : Nat,
      token.EndsAt start (before ++ cs) finish → (finish : Int) ≤ later.position := by
  refine hpairwise.imp_of_mem fun htoken _ hends finish hfinish => ?_
  obtain ⟨finish', hfinish'⟩ := h.exists_endsAt _ htoken
  rw [hfinish.unique (hfinish'.append_left before)]
  exact hends finish' hfinish'

/-- A token begins where all tokens before it have ended. -/
lemma pairwise_endsAt (h : Cuts start cs tokens) : tokens.Pairwise fun token later =>
    ∀ finish : Nat, token.EndsAt start cs finish → (finish : Int) ≤ later.position := by
  induction h with
  | finish => exact .nil
  | @dropped position c _ _ _ others ih => exact others.pairwise_append_left [c] ih
  | token hcovers others ih =>
    refine .cons (fun later hlater finish hfinish => ?_) (others.pairwise_append_left _ ih)
    obtain ⟨_, hends⟩ := others.exists_endsAt later hlater
    rw [hfinish.unique (hcovers.endsAt _)]
    exact_mod_cast hends.bounds.1

/-- A character that lies in no span is not significant. -/
lemma not_significant (h : Cuts start cs tokens) : ∀ before c after, cs = before ++ c :: after →
    (∀ token ∈ tokens, ∀ finish : Nat, token.EndsAt start cs finish →
      ¬ (token.position ≤ start + before.length ∧ start + before.length < finish)) →
    ¬ Significant c after.head? := by
  induction h with
  | finish =>
    intro before c after hcs
    simp at hcs
  | @dropped position d cs tokens hd _ ih =>
    intro before c after hcs hout
    rcases before with _ | ⟨_, before⟩ <;> cases hcs
    · exact hd
    · refine ih before c after rfl fun token htoken finish hfinish hin => ?_
      refine hout token htoken finish (hfinish.append_left [d]) ?_
      simp only [List.length_cons]
      omega
  | @token position x word rest tokens hcovers others ih =>
    intro before c after hcs hout
    have hhead := hout _ List.mem_cons_self _ (hcovers.endsAt position)
    have hlength : word.length ≤ before.length := by
      dsimp only at hhead
      omega
    obtain ⟨before, rfl⟩ : word <+: before :=
      List.prefix_of_prefix_length_le ⟨rest, rfl⟩ ⟨c :: after, hcs.symm⟩ hlength
    rw [List.append_assoc] at hcs
    refine ih before c after (List.append_cancel_left hcs) fun token htoken finish hfinish hin => ?_
    refine hout token (List.mem_cons_of_mem _ htoken) finish (hfinish.append_left word) ?_
    simp only [List.length_append]
    omega

end Cuts

/-- **The spans of tokens.**  Every token of a source has one end.  The spans lie in the source, the
later ones behind the earlier ones, so that their positions grow.  The end of the text is marked
once, at the length of the source, and no token of the list is such a mark.  A character in no span
is not significant: neither part of a name nor a quote, bracket, comma or sign, and no point with a
digit behind it. -/
theorem scan_spans (source : String) :
    (∀ token ∈ (scan source).tokens, ∃! finish, token.EndsAt 0 source.toList finish) ∧
    (∀ token ∈ (scan source).tokens, ∀ finish : Nat, token.EndsAt 0 source.toList finish →
      0 ≤ token.position ∧ token.position < finish ∧ finish ≤ source.length) ∧
    ((scan source).tokens.Pairwise fun token later => token.position < later.position ∧
      ∀ finish : Nat, token.EndsAt 0 source.toList finish → (finish : Int) ≤ later.position) ∧
    (∀ token ∈ (scan source).tokens, token.lexeme.kind ≠ .finish) ∧
    (scan source).finish = source.length ∧
    (∀ before c after, source.toList = before ++ c :: after →
      (∀ token ∈ (scan source).tokens, ∀ finish : Nat, token.EndsAt 0 source.toList finish →
        ¬ (token.position ≤ before.length ∧ before.length < finish)) →
      ¬ Significant c after.head?) := by
  have hcuts : Cuts 0 source.toList (scan source).tokens := cuts_scanFrom 0 source.toList
  have hends := hcuts.exists_endsAt
  refine ⟨fun token htoken => ?_, fun token _ finish hfinish => ?_, ?_, ?_, ?_, ?_⟩
  · obtain ⟨finish, hfinish⟩ := hends token htoken
    exact ⟨finish, hfinish, fun _ hother => hother.unique hfinish⟩
  · have hbounds := hfinish.bounds
    rw [String.length_toList] at hbounds
    omega
  · refine hcuts.pairwise_endsAt.imp_of_mem fun htoken _ hend => ⟨?_, hend⟩
    obtain ⟨finish, hfinish⟩ := hends _ htoken
    exact Int.lt_of_lt_of_le hfinish.bounds.2.1 (hend finish hfinish)
  · intro token _
    cases token.lexeme <;> exact nofun
  · rw [scan, String.length_toList]
  · intro before c after hsource hout
    refine hcuts.not_significant before c after hsource fun token htoken finish hfinish hin => ?_
    exact hout token htoken finish hfinish (by omega)

/-- A reference that is not closed has one end, behind a character that is dropped. -/
theorem scan_spans_of_unclosed :
    (⟨.columnRef "a", 1⟩ : Token) ∈ (scan "?[a").tokens ∧
      ∃! finish, Token.EndsAt 0 "?[a".toList ⟨.columnRef "a", 1⟩ finish := by
  have hdropped : ¬ Significant '?' (some '[') := by
    rintro (hpart | hmark | ⟨hpoint, -⟩)
    · exact absurd hpart (by decide)
    · exact absurd hmark (by decide)
    · exact absurd hpoint (by decide)
  have hunclosed : Covers (.columnRef "a") ['[', 'a'] [] := .unbracketed (by decide)
  have hcuts : Cuts 0 "?[a".toList [⟨.columnRef "a", 1⟩] :=
    .dropped hdropped (.token hunclosed (.finish 3))
  have htokens : (scan "?[a").tokens = [⟨.columnRef "a", 1⟩] := hcuts.eq_scanFrom.symm
  have hmem : (⟨.columnRef "a", 1⟩ : Token) ∈ (scan "?[a").tokens := by
    rw [htokens]
    exact List.mem_singleton_self _
  exact ⟨hmem, (scan_spans "?[a").1 _ hmem⟩

end TableFormula
