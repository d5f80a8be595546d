import TableFormula.Text.Span
import TableFormula.Value.Reading

/-!
# Functions of text

The functions read every argument they treat as text as its display text.  Places and lengths are
numbers cut to whole ones; they count characters, and places count from one.
-/

namespace TableFormula.Function

/-- A function of the text of a value. -/
def ofText (f : String → Value) (v : Value) : Except Fault Value :=
  v.toText.map f

/-- A value as a place or a length: a number without what follows the point. -/
def wholeNumber (v : Value) : Except Fault Int := do
  Number.truncate (← v.toNumber)

/-- A text of some characters. -/
def textOf (cs : List Char) : Value :=
  .text (String.ofList cs)

/-- The display texts of some values, one after the other. -/
def joined (values : List Value) : Except Fault Value := do
  return .text (String.join (← values.mapM Value.toText))

/-- The first characters of a text; a negative count leaves out so many at the end. -/
def leftPart (v count : Value) : Except Fault Value := do
  let s ← v.toText
  let n ← wholeNumber count
  return textOf (Text.leading n s.toList)

/-- The last characters of a text, which is not looked at for a count that is not positive. -/
def rightPart (v count : Value) : Except Fault Value := do
  let n ← wholeNumber count
  if 0 < n then
    let s ← v.toText
    return textOf (Text.trailing n s.toList)
  else return textOf []

/-- Some characters of a text from a place on. -/
def middlePart (v start count : Value) : Except Fault Value := do
  let i ← wholeNumber start
  let s ← v.toText
  let n ← wholeNumber count
  return textOf (Text.middle i n s.toList)

/-- A text with some characters from a place on replaced. -/
def replacePart (v start count new : Value) : Except Fault Value := do
  let s ← v.toText
  let i ← wholeNumber start
  let n ← wholeNumber count
  let t ← new.toText
  return textOf (Text.splice i n t.toList s.toList)

/-- A text with every occurrence of another one replaced. -/
def replaceAll (v find new : Value) : Except Fault Value := do
  let s ← v.toText
  let f ← find.toText
  let t ← new.toText
  return textOf (Text.substitute f.toList t.toList s.toList)

end TableFormula.Function
