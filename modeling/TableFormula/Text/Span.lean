/-!
# Parts of a text

Characters are counted from one.  A count below zero or past the end is clipped, with one exception:
a negative number of *leading* characters drops that many from the end.

The replacement of a search text goes through `pieces`, the cut of a text at the leftmost
occurrences that do not overlap: the pieces joined by the search text give the text back, and the
pieces joined by the replacement are the result.
-/

namespace TableFormula.Text

/-! ## Spans -/

/-- The first `n` items; for `n < 0`, all but the last `-n`. -/
def leading {α : Type} (n : Int) (items : List α) : List α :=
  if 0 ≤ n then items.take n.toNat else items.take (items.length - (-n).toNat)

/-- The last `n` characters. -/
def trailing (n : Int) (cs : List Char) : List Char :=
  cs.drop (cs.length - n.toNat)

/-- The `count` characters from position `start` on. -/
def middle (start count : Int) (cs : List Char) : List Char :=
  (cs.drop (start - 1).toNat).take count.toNat

/-- The text with the `count` characters from position `start` on replaced by `new`. -/
def splice (start count : Int) (new cs : List Char) : List Char :=
  cs.take (start - 1).toNat ++ new ++ cs.drop ((start - 1).toNat + count.toNat)

/-! ## Occurrences -/

/-- The cut of a text at the leftmost occurrences of `find`, read from the left without overlap.
An empty `find` occurs nowhere. -/
def pieces (find : List Char) (cs : List Char) : List (List Char) :=
  match cs with
  | [] => [[]]
  | c :: rest =>
    if find ≠ [] ∧ find.isPrefixOf (c :: rest) then
      [] :: pieces find ((c :: rest).drop find.length)
    else match pieces find rest with
      | [] => [[c]]
      | piece :: others => (c :: piece) :: others
termination_by cs.length
decreasing_by
  · rename_i h
    have : 0 < find.length := List.length_pos_iff.2 h.1
    simp only [List.length_drop, List.length_cons]
    omega
  · simp

/-- Every occurrence of `find` replaced by `new`; when `find` is empty, `new` is put between each
pair of neighbouring characters. -/
def substitute (find new cs : List Char) : List Char :=
  if find = [] then List.intercalate new (cs.map ([·]))
  else List.intercalate new (pieces find cs)

theorem pieces_ne_nil (find cs : List Char) : pieces find cs ≠ [] := by
  unfold pieces
  split
  · simp
  · split
    · simp
    · split <;> simp

/-- Nothing of the text is lost: its pieces joined by the search text are the text. -/
theorem intercalate_pieces (find cs : List Char) :
    List.intercalate find (pieces find cs) = cs := by
  fun_induction pieces find cs with
  | case1 => rfl
  | case2 c rest h ih =>
    obtain ⟨tail, htail⟩ := List.isPrefixOf_iff_prefix.1 h.2
    have hne := pieces_ne_nil find ((c :: rest).drop find.length)
    obtain ⟨p, ps, hp⟩ := List.exists_cons_of_ne_nil hne
    have hdrop : (c :: rest).drop find.length = tail := by rw [← htail]; simp
    rw [hp] at ih ⊢
    rw [List.intercalate_cons_cons, ih, hdrop, List.nil_append, htail]
  | case3 c rest h hnil ih => exact absurd hnil (pieces_ne_nil find rest)
  | case4 c rest h piece others hp ih =>
    rw [hp] at ih
    cases others with
    | nil => simpa [List.intercalate] using ih
    | cons q qs =>
      rw [List.intercalate_cons_cons] at ih ⊢
      rw [← ih]; simp

end TableFormula.Text
