import TableFormula.Calendar.Moment
import TableFormula.Number.Decimal

/-!
# Cell values

A table is loosely typed: a cell may be blank, a truth value, a text, a number of one of three
kinds, a date, a moment, or a list that no formula looks into.  A row gives the cells of its columns
by the identifier of the column; a cell that is not there is blank.
-/

namespace TableFormula

open Number

/-- A value of a cell, an argument or a result. -/
inductive Value where
  | blank
  | truth (b : Bool)
  | text (s : String)
  | integer (n : Int)
  | float (x : Float)
  | decimal (d : Decimal)
  | date (d : Date)
  | stamp (s : Stamp)
  | list (items : List Value)
deriving Repr, Inhabited

namespace Value

/-- Numbers are integers, floats and decimals; truth values are none. -/
def isNumber : Value → Bool
  | integer _ | float _ | decimal _ => true
  | _ => false

/-- Whether a cell is empty: blank or the empty text. -/
def isEmpty : Value → Bool
  | blank => true
  | text s => s == ""
  | _ => false

end Value

/-! ## Rows -/

/-- The cells of a row, by column identifier. -/
abbrev Row := List (String × Value)

namespace Row

/-- The cell of a column; blank when there is none. -/
def get : Row → String → Value
  | [], _ => .blank
  | (key, w) :: rest, id => if key = id then w else Row.get rest id

/-- The row with one cell written: in its place if the column has a cell, otherwise at the end. -/
def set : Row → String → Value → Row
  | [], id, v => [(id, v)]
  | (key, w) :: rest, id, v =>
    if key = id then (id, v) :: rest else (key, w) :: Row.set rest id v

@[simp] theorem get_set_self (row : Row) (id : String) (v : Value) : (row.set id v).get id = v := by
  induction row with
  | nil => simp [set, get]
  | cons cell rest ih =>
    obtain ⟨key, w⟩ := cell
    by_cases h : key = id <;> simp [set, get, h, ih]

theorem get_set_of_ne (row : Row) {id other : String} (v : Value) (h : id ≠ other) :
    (row.set id v).get other = row.get other := by
  induction row with
  | nil => simp [set, get, h]
  | cons cell rest ih =>
    obtain ⟨key, w⟩ := cell
    by_cases hk : key = id
    · subst hk; simp [set, get, h]
    · simp [set, get, hk, ih]

end Row

end TableFormula
