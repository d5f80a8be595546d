import TableFormula.Calendar.Clock
import TableFormula.Calendar.Iso
import TableFormula.Text.Case
import TableFormula.Value.Literal

/-!
# Reading a cell as something else

Operators and functions do not insist on a type: they read what they are given as a number, a truth
value, a text or a moment.

* **Number.**  Text is read after currency signs, thousands separators, percent signs and blanks
  are dropped; the longest numeral it begins with counts, and no numeral is zero.  What is no number
  reads as zero, so a reading is never NaN.
* **Truth.**  Zero, blank and the words `false`, `no`, `0` are false.
* **Text.**  Whole floats below `10 ^ 21` show no fraction.  A whole number with too many digits has
  no text.
* **Moment.**  Text is read in the international format first and as an everyday date otherwise;
  numbers are no dates.
-/

namespace TableFormula

open Number Text

namespace Value

/-! ## Text -/

/-- The text of a float. -/
def floatText (x : Float) : String :=
  match kind x with
  | .finite d =>
    if d.isWhole && d.floor.natAbs < Nat.pow 10 21 then String.ofList (integerText d.floor)
    else cellNotation.text ⟨"NaN", "Infinity"⟩ x
  | _ => cellNotation.text ⟨"NaN", "Infinity"⟩ x

/-- What a value looks like, however many digits it has. -/
def shown : Value → String
  | blank => ""
  | truth b => if b then "true" else "false"
  | text s => s
  | integer n => String.ofList (integerText n)
  | float x => floatText x
  | decimal d => String.ofList d.text
  | date d => String.ofList d.isoText
  | stamp s => String.ofList s.isoText
  | list items => String.ofList (list items).literal

/-- A value as text. -/
def toText (v : Value) : Except Fault String :=
  if v.hasText then .ok v.shown else .error (.noValue .digits)

@[simp] theorem shown_text (s : String) : (text s).shown = s := rfl

@[simp] theorem toText_text (s : String) : (text s).toText = .ok s := rfl

@[simp] theorem toText_date (d : Date) : (date d).toText = .ok (String.ofList d.isoText) := rfl

@[simp] theorem toText_stamp (s : Stamp) : (stamp s).toText = .ok (String.ofList s.isoText) := rfl

theorem toText_of_hasText {v : Value} (h : v.hasText = true) : v.toText = .ok v.shown :=
  if_pos h

theorem toText_of_not_hasText {v : Value} (h : v.hasText = false) :
    v.toText = .error (.noValue .digits) := by
  rw [toText, h, if_neg Bool.false_ne_true]

/-! ## Numbers -/

/-- Signs that are dropped before a number is read. -/
def isNoise (c : Char) : Bool :=
  c == '$' || c == ',' || c == '%' || isBlank c

/-- The number that a text begins with, zero if it begins with none. -/
def numberOfText (cs : List Char) : Float :=
  match Numeral.read? (cs.filter (!isNoise ·)) with
  | some (numeral, _) => numeral.toFloat
  | none => 0.0

/-- A float with zero in the place of NaN. -/
def orZero (x : Float) : Float :=
  if x.isNaN then 0.0 else x

/-- A value as a number.  A date counts as its year, which its text begins with; the text of a list
begins with no number, if it has one. -/
def toNumber : Value → Except Fault Float
  | blank => .ok 0.0
  | truth b => .ok (if b then 1.0 else 0.0)
  | text s => .ok (numberOfText s.toList)
  | integer n => ofInt n
  | float x => .ok (orZero x)
  | decimal d => d.toFloat.map orZero
  | date d => .ok (Float.ofNat d.year)
  | stamp s => .ok (Float.ofNat s.moment.date.year)
  | list items => (list items).toText.map fun _ => 0.0

/-! ## Truth -/

/-- The words that are false, in small letters. -/
def falseWords : List String := ["", "false", "0", "no"]

/-- A value as a truth value. -/
def toTruth : Value → Except Fault Bool
  | blank => .ok false
  | truth b => .ok b
  | text s => .ok (!falseWords.contains (lower s))
  | integer n => .ok (n != 0)
  | float x => .ok (!(x == 0.0))
  | decimal d => d.isZero.map (!·)
  | date _ | stamp _ => .ok true
  | list items => .ok (!items.isEmpty)

/-! ## Moments -/

/-- Writes every `Z` as the distance that it stands for. -/
def expandZulu (cs : List Char) : List Char :=
  cs.flatMap fun c => if c = 'Z' then ['+', '0', '0', ':', '0', '0'] else [c]

/-- The moment that a text names.  A text in the international format whose moment leaves the
calendar on the way to universal time is a fault; an everyday date has a fault of its own. -/
def momentOfText (reader : Everyday.Reader) (s : String) : Except Fault (Option Moment) :=
  match trim s.toList with
  | [] => .ok none
  | cs =>
    match Iso.read? (expandZulu cs) with
    | some written => written.toUniversal.map some
    | none => reader.read cs

/-- A value as a moment in universal time.  The text of a list names none. -/
def toMoment (reader : Everyday.Reader) : Value → Except Fault (Option Moment)
  | date d => .ok (some (Moment.midnight d))
  | stamp s => s.toUniversal.map some
  | text s => momentOfText reader s
  | list items => (list items).toText.map fun _ => none
  | blank | truth _ | integer _ | float _ | decimal _ => .ok none

/-! ## Equality -/

/-- Whether a value decides that a comparison goes by number. -/
def comparesByNumber : Value → Bool
  | truth _ => true
  | v => v.isNumber

/-- Equality of values: by number when one side is a number or a truth value, otherwise by text,
letter for letter. -/
def same (a b : Value) : Except Fault Bool :=
  if a.comparesByNumber || b.comparesByNumber then do
    let x ← a.toNumber
    let y ← b.toNumber
    return x == y
  else do
    let s ← a.toText
    let t ← b.toText
    return s == t

end Value

end TableFormula
