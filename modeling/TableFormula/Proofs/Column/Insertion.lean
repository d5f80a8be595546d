import Mathlib.Tactic.Common
import TableFormula.Column

/-!
# Columns that a reference does not mean

A reference is looked for in three passes over the columns: by identifier, by name, and by either of
them ignoring case.  A column that does not answer to a reference ignoring case is passed over in
all three, so it may stand anywhere among the columns without changing what the reference means.
-/

namespace TableFormula.Column

/-! ## Columns that do not answer -/

section

variable {c : Column} {reference : String}

/-- What does not answer to a reference ignoring case has another identifier. -/
lemma id_ne_of_answersTo_eq_false (h : c.answersTo reference = false) : c.id ≠ reference := by
  rintro rfl
  simp [answersTo] at h

/-- What does not answer to a reference ignoring case has another name. -/
lemma name_ne_of_answersTo_eq_false (h : c.answersTo reference = false) : c.name ≠ reference := by
  rintro rfl
  simp [answersTo] at h

end

/-- The column that a reference means is one of the columns. -/
lemma mem_of_find?_eq_some {columns : List Column} {reference : String} {c : Column}
    (h : find? columns reference = some c) : c ∈ columns := by
  rw [find?, Option.or_eq_some_iff, Option.or_eq_some_iff] at h
  obtain h | ⟨-, h | ⟨-, h⟩⟩ := h <;> exact List.mem_of_find?_eq_some h

/-! ## Columns with others among them -/

/-- A list of columns, and the same list with others of a kind inserted anywhere. -/
inductive Inserted (P : Column → Prop) : List Column → List Column → Prop
  | nil : Inserted P [] []
  | keep (c : Column) {columns columns' : List Column} (h : Inserted P columns columns') :
    Inserted P (c :: columns) (c :: columns')
  | insert {c : Column} (hc : P c) {columns columns' : List Column}
    (h : Inserted P columns columns') : Inserted P columns (c :: columns')

namespace Inserted

variable {P : Column → Prop} {columns columns' : List Column}

/-- One more column at the end. -/
lemma append_singleton {c : Column} (hc : P c) (columns : List Column) :
    Inserted P columns (columns ++ [c]) := by
  induction columns with
  | nil => exact .insert hc .nil
  | cons first columns ih => exact .keep first ih

/-- A search that passes over the inserted columns finds the same column. -/
lemma find?_eq (h : Inserted P columns columns') {p : Column → Bool}
    (hp : ∀ c, P c → p c = false) : columns'.find? p = columns.find? p := by
  induction h with
  | nil => rfl
  | keep c _ ih => rw [List.find?_cons, List.find?_cons, ih]
  | insert hc _ ih => rw [List.find?_cons, hp _ hc, ih]

end Inserted

/-- Columns that do not answer to a reference do not change what it means. -/
lemma find?_of_inserted {P : Column → Prop} {columns columns' : List Column} {reference : String}
    (h : Inserted P columns columns') (hP : ∀ c, P c → c.answersTo reference = false) :
    find? columns' reference = find? columns reference := by
  have hid : ∀ c, P c → (c.id == reference) = false := fun c hc =>
    beq_false_of_ne (id_ne_of_answersTo_eq_false (hP c hc))
  have hname : ∀ c, P c → (c.name == reference) = false := fun c hc =>
    beq_false_of_ne (name_ne_of_answersTo_eq_false (hP c hc))
  rw [find?, find?, h.find?_eq hid, h.find?_eq hname, h.find?_eq hP]

/-- An identifier that no column answers to means a new column that has it. -/
lemma find?_append_self {columns : List Column} {c : Column}
    (h : ∀ other ∈ columns, other.answersTo c.id = false) :
    find? (columns ++ [c]) c.id = some c := by
  have hnone : columns.find? (·.id == c.id) = none :=
    List.find?_eq_none.mpr fun other hother => by
      simpa using id_ne_of_answersTo_eq_false (h other hother)
  rw [find?, List.find?_append, hnone]
  simp

end TableFormula.Column
