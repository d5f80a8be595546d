import TableFormula.Calendar.Everyday.Reader
import TableFormula.Proofs.Text.Parts

/-!
# Occurrences in texts

A text is cut at the occurrences of a search text from left to right: at the leftmost one, then at
the leftmost one in what stands behind it, and so on.  A text has exactly one such cut
(`existsUnique_leftmostCut`).  A replacement joins its pieces with another text; so what a new text
spells together with its neighbours is not searched again, and of overlapping occurrences only the
first is replaced (`substitute_laws`).

An empty search text occurs everywhere.  The new text then goes between neighbouring characters, but
not in front of the first one or behind the last.
-/

namespace TableFormula

namespace Text

variable {find new cs : List Char} {ps ps' : List (List Char)}

/-! ## Leftmost occurrences -/

/-- The pieces of a text that is cut at occurrences of a search text, each of them the leftmost one
in the text from its piece on, until no occurrence is left. -/
inductive LeftmostCut (find : List Char) : List Char → List (List Char) → Prop where
  | last {p : List Char} (hnone : ¬ find <:+: p) : LeftmostCut find p [p]
  | cut {p rest : List Char} {ps : List (List Char)}
      (hleftmost : ∀ q, q ++ find <+: p ++ find ++ rest → p.length ≤ q.length)
      (hrest : LeftmostCut find rest ps) : LeftmostCut find (p ++ find ++ rest) (p :: ps)

namespace LeftmostCut

lemma ne_nil (h : LeftmostCut find cs ps) : ps ≠ [] := by
  cases h <;> exact List.cons_ne_nil _ _

/-- The pieces with the search text between them are the text. -/
lemma intercalate_eq (h : LeftmostCut find cs ps) : List.intercalate find ps = cs := by
  induction h with
  | last => exact List.intercalate_singleton
  | @cut p rest ps _ hrest ih =>
    obtain ⟨p', ps, rfl⟩ := List.exists_cons_of_ne_nil hrest.ne_nil
    rw [List.intercalate_cons_cons, ih]

/-- A character in front where no occurrence begins belongs to the first piece. -/
lemma cons {c : Char} {p : List Char} (hbegin : ¬ find <+: c :: cs)
    (h : LeftmostCut find cs (p :: ps)) : LeftmostCut find (c :: cs) ((c :: p) :: ps) := by
  cases h with
  | last hnone => exact .last fun hinfix => (List.infix_cons_iff.mp hinfix).elim hbegin hnone
  | @cut _ rest _ hleftmost hrest =>
    refine .cut (p := c :: p) (fun q hq => ?_) hrest
    cases q with
    | nil => exact absurd hq hbegin
    | cons d q =>
      have hq' : q ++ find <+: p ++ find ++ rest := (List.cons_prefix_cons.mp hq).2
      exact Nat.succ_le_succ (hleftmost q hq')

/-- Two cuts of a text are the same: where one of them has its first occurrence, the other one
cannot have an earlier one or miss it. -/
lemma unique (h : LeftmostCut find cs ps) (h' : LeftmostCut find cs ps') : ps = ps' := by
  induction h generalizing ps' with
  | @last p hnone =>
    cases h' with
    | last => rfl
    | @cut p' rest' => exact absurd ⟨p', rest', rfl⟩ hnone
  | @cut p rest ps hleftmost hrest ih =>
    generalize hcs : p ++ find ++ rest = cs at h'
    cases h' with
    | last hnone => exact absurd ⟨p, rest, hcs⟩ hnone
    | @cut p' rest' ps' hleftmost' hrest' =>
      have hlength : p.length = p'.length :=
        le_antisymm (hleftmost p' (hcs ▸ List.prefix_append _ _))
          (hleftmost' p (hcs ▸ List.prefix_append _ _))
      rw [List.append_assoc, List.append_assoc] at hcs
      obtain ⟨rfl, hbehind⟩ := List.append_inj hcs hlength
      obtain rfl := List.append_cancel_left hbehind
      rw [ih hrest']

end LeftmostCut

/-- The scan from the left cuts at the leftmost occurrences. -/
lemma leftmostCut_pieces (hfind : find ≠ []) (cs : List Char) :
    LeftmostCut find cs (pieces find cs) := by
  fun_induction pieces find cs with
  | case1 => exact .last fun hinfix => hfind (List.infix_nil.mp hinfix)
  | case2 c rest h ih =>
    obtain ⟨tail, htail⟩ := List.isPrefixOf_iff_prefix.mp h.2
    have hdrop : (c :: rest).drop find.length = tail := by rw [← htail, List.drop_left]
    rw [hdrop] at ih ⊢
    rw [← htail]
    exact .cut (p := []) (fun _ _ => Nat.zero_le _) ih
  | case3 c rest h hnil => exact absurd hnil (pieces_ne_nil find rest)
  | case4 c rest h piece others hpieces ih =>
    rw [hpieces] at ih
    exact ih.cons fun hprefix => h ⟨hfind, List.isPrefixOf_iff_prefix.mpr hprefix⟩

/-- A text has exactly one cut at the leftmost occurrences of a text that is not empty. -/
lemma existsUnique_leftmostCut (hfind : find ≠ []) (cs : List Char) :
    ∃! ps, LeftmostCut find cs ps :=
  ⟨pieces find cs, leftmostCut_pieces hfind cs, fun _ h => h.unique (leftmostCut_pieces hfind cs)⟩

/-! ## Replacements -/

/-- A replacement puts the new text in place of the occurrences of the cut. -/
lemma substitute_eq_intercalate (hfind : find ≠ []) (h : LeftmostCut find cs ps) :
    substitute find new cs = List.intercalate new ps := by
  rw [substitute, if_neg hfind, (leftmostCut_pieces hfind cs).unique h]

/-- What stands between the pieces goes in front of every piece but the first. -/
lemma intercalate_cons (sep p : List Char) (ps : List (List Char)) :
    List.intercalate sep (p :: ps) = p ++ ps.flatMap (sep ++ ·) := by
  induction ps generalizing p with
  | nil => rw [List.intercalate_singleton, List.flatMap_nil, List.append_nil]
  | cons p' ps ih =>
    rw [List.intercalate_cons_cons, ih, List.flatMap_cons, List.append_assoc, List.append_assoc]

lemma length_intercalate (sep p : List Char) (ps : List (List Char)) :
    (List.intercalate sep (p :: ps)).length = (p :: ps).flatten.length + ps.length * sep.length := by
  rw [intercalate_cons, List.length_append, List.flatten_cons, List.length_append, Nat.add_assoc]
  refine congrArg _ ?_
  induction ps with
  | nil => simp
  | cons p' ps ih =>
    rw [List.flatMap_cons, List.length_append, List.length_append, ih, List.flatten_cons,
      List.length_append, List.length_cons, Nat.add_mul]
    omega

/-- Every replaced occurrence makes the text longer by the difference of the two texts. -/
lemma length_intercalate_eq_add (hne : ps ≠ []) :
    ((List.intercalate new ps).length : ℤ) = (List.intercalate find ps).length +
      (ps.length - 1) * (new.length - find.length) := by
  obtain ⟨p, ps, rfl⟩ := List.exists_cons_of_ne_nil hne
  rw [length_intercalate, length_intercalate, List.length_cons]
  push_cast
  ring

/-- The new text goes between neighbouring characters if the search text is empty. -/
lemma substitute_nil (new : List Char) (c : Char) (cs : List Char) :
    substitute [] new (c :: cs) = c :: cs.flatMap (new ++ [·]) := by
  rw [substitute, if_pos rfl, List.map_cons, intercalate_cons, List.flatMap_map]
  rfl

/-- To replace a text by itself changes nothing. -/
lemma substitute_self (find cs : List Char) : substitute find find cs = cs := by
  by_cases hfind : find = []
  · subst hfind
    cases cs with
    | nil => rfl
    | cons c cs => rw [substitute_nil]; simp
  · rw [substitute, if_neg hfind, intercalate_pieces]

end Text

namespace Function

/-- **Occurrences.**  A text is cut in exactly one way at the leftmost occurrences of a search text
that is not empty.  A replacement puts the new text between the pieces of this cut, which makes the
text longer by the difference of the two texts at each occurrence.  With an empty search text the new
text goes between neighbouring characters, and to replace a text by itself changes nothing. -/
theorem substitute_laws {reader : Everyday.Reader} {v find new : Value} {s f t : String}
    (hv : v.toText = .ok s) (hfind : find.toText = .ok f) (hnew : new.toText = .ok t) :
    (f ≠ "" →
      (∃! ps, Text.LeftmostCut f.toList s.toList ps) ∧
      ∀ ps, Text.LeftmostCut f.toList s.toList ps →
        List.intercalate f.toList ps = s.toList ∧
        Function.substitute.applyTo? reader [v, find, new] =
          some (.ok (textOf (List.intercalate t.toList ps))) ∧
        Function.length.applyTo? reader [textOf (List.intercalate t.toList ps)] =
          some (.ok (.integer (s.length + (ps.length - 1) * (t.length - f.length))))) ∧
    (f = "" → ∀ c cs, s.toList = c :: cs →
      Function.substitute.applyTo? reader [v, find, new] =
        some (.ok (textOf (c :: cs.flatMap (t.toList ++ [·]))))) ∧
    (f = "" → s = "" → Function.substitute.applyTo? reader [v, find, new] = some (.ok (.text ""))) ∧
    Function.substitute.applyTo? reader [v, find, find] = some (.ok (.text s)) := by
  have happly : ∀ {w : Value} {u : String}, w.toText = .ok u →
      Function.substitute.applyTo? reader [v, find, w] =
        some (.ok (textOf (Text.substitute f.toList u.toList s.toList))) := by
    intro w u hw
    show some (replaceAll v find w) = _
    rw [replaceAll, hv, hfind, hw]
    rfl
  refine ⟨fun hne => ?_, fun hnil c cs hs => ?_, fun hnil hs => ?_, ?_⟩
  · have hne' : f.toList ≠ [] := fun hnil => hne (String.toList_eq_nil_iff.mp hnil)
    refine ⟨Text.existsUnique_leftmostCut hne' _, fun ps hps => ⟨hps.intercalate_eq, ?_, ?_⟩⟩
    · rw [happly hnew, Text.substitute_eq_intercalate hne' hps]
    · rw [length_textOf, Text.length_intercalate_eq_add hps.ne_nil, hps.intercalate_eq]
      simp only [String.length_toList]
  · rw [happly hnew, hnil, hs, String.toList_empty, Text.substitute_nil]
  · rw [happly hnew, hnil, hs]
    rfl
  · rw [happly hfind, Text.substitute_self, textOf_toList]

/-- Overlapping occurrences, and a new text that spells another one with what stands behind it. -/
theorem substitute_laws_overlapping :
    Text.LeftmostCut ['a', 'a'] ['a', 'a', 'a', 'a', 'a', 'b'] [[], [], ['a', 'b']] ∧
    (∀ ps, Text.LeftmostCut ['a', 'a'] ['a', 'a', 'a', 'a', 'a', 'b'] ps →
      ps = [[], [], ['a', 'b']]) ∧
    Function.substitute.applyTo? (Everyday.reader 2024) [.text "aaaaab", .text "aa", .text "ba"] =
      some (.ok (textOf ['b', 'a', 'b', 'a', 'a', 'b'])) ∧
    Function.length.applyTo? (Everyday.reader 2024) [textOf ['b', 'a', 'b', 'a', 'a', 'b']] =
      some (.ok (.integer (6 + (3 - 1) * (2 - 2)))) ∧
    Function.substitute.applyTo? (Everyday.reader 2024) [.text "aaaaab", .text "", .text "-"] =
      some (.ok (textOf ['a', '-', 'a', '-', 'a', '-', 'a', '-', 'a', '-', 'b'])) := by
  have hcut : Text.LeftmostCut ['a', 'a'] ['a', 'a', 'a', 'a', 'a', 'b'] [[], [], ['a', 'b']] :=
    .cut (p := []) (fun _ _ => Nat.zero_le _)
      (.cut (p := []) (fun _ _ => Nat.zero_le _) (.last (by decide)))
  obtain ⟨hcuts, -, -, -⟩ := substitute_laws (Value.toText_text "aaaaab") (Value.toText_text "aa")
    (Value.toText_text "ba")
  obtain ⟨hunique, hlaws⟩ := hcuts (by decide)
  obtain ⟨-, hresult, hlength⟩ := hlaws _ hcut
  obtain ⟨-, hempty, -, -⟩ := substitute_laws (Value.toText_text "aaaaab") (Value.toText_text "")
    (Value.toText_text "-")
  exact ⟨hcut, fun ps hps => hunique.unique hps hcut, hresult, hlength, hempty rfl _ _ rfl⟩

end Function

end TableFormula
