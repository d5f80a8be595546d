import TableFormula.Json.Basic
import TableFormula.Json.Quoted
import TableFormula.Number.Numeral

/-!
# Reading structured data

A reader takes a piece of data from the front of a text and gives back the rest.  Blanks may stand
around every piece.  Every step takes at least one character, so the length of the text bounds the
number of steps.
-/

namespace TableFormula.Json

open Number

/-- Drops the blanks in front. -/
def skipBlanks (cs : List Char) : List Char :=
  cs.dropWhile fun c => c == ' ' || c == '\t' || c == '\n' || c == '\r'

/-- Takes a mark, with blanks in front of it. -/
def mark? (c : Char) (cs : List Char) : Option (List Char) :=
  match skipBlanks cs with
  | [] => none
  | d :: rest => if c = d then some rest else none

/-- Whether a mark and at least one digit stand in front. -/
def digitAfter (mark : Char) : List Char → Bool
  | c :: d :: _ => c == mark && d.isDigit
  | _ => false

/-- Whether a number goes on behind its whole part, with digits behind a point or an exponent. -/
def goesOn (cs : List Char) : Bool :=
  digitAfter '.' cs || (readExponent cs).2.length < cs.length

/-- Whether digits can be the whole part of a number: they begin with no zero, unless it is alone.
-/
def isWholePart : List Char → Bool
  | [] => false
  | ['0'] => true
  | c :: _ => c != '0'

/-- Reads a number. -/
def readNumber? (cs : List Char) : Option (Json × List Char) :=
  let (negative, body) :=
    match cs with
    | '-' :: rest => (true, rest)
    | _ => (false, cs)
  let (digits, rest) := spanDigits body
  if !isWholePart digits then none
  else if goesOn rest then
    (readDecimal? body).map fun (size, rest) => (float (Numeral.toFloat ⟨negative, size⟩), rest)
  else some (integer (if negative then -(natOf digits : Int) else natOf digits), rest)

/-- Reads a key and the colon behind it. -/
def readKey? (cs : List Char) : Option (String × List Char) := do
  let rest ← mark? '"' cs
  let (key, rest) ← readQuoted? rest
  let rest ← mark? ':' rest
  return (String.ofList key, rest)

mutual

/-- Reads a piece of data in at most `fuel` steps. -/
def readValue? : (fuel : Nat) → List Char → Option (Json × List Char)
  | 0, _ => none
  | fuel + 1, cs =>
    match skipBlanks cs with
    | 'n' :: 'u' :: 'l' :: 'l' :: rest => some (null, rest)
    | 't' :: 'r' :: 'u' :: 'e' :: rest => some (bool true, rest)
    | 'f' :: 'a' :: 'l' :: 's' :: 'e' :: rest => some (bool false, rest)
    | '"' :: rest => (readQuoted? rest).map fun (cs, rest) => (string (String.ofList cs), rest)
    | '[' :: rest =>
      match mark? ']' rest with
      | some rest => some (array [], rest)
      | none => (readItems? fuel rest).map fun (items, rest) => (array items, rest)
    | '{' :: rest =>
      match mark? '}' rest with
      | some rest => some (object [], rest)
      | none => (readMembers? fuel rest).map fun (members, rest) => (object members, rest)
    | cs => readNumber? cs

/-- Reads the items of an array up to its end. -/
def readItems? : (fuel : Nat) → List Char → Option (List Json × List Char)
  | 0, _ => none
  | fuel + 1, cs => do
    let (item, rest) ← readValue? fuel cs
    match mark? ',' rest with
    | some rest => do
      let (items, rest) ← readItems? fuel rest
      return (item :: items, rest)
    | none => return ([item], ← mark? ']' rest)

/-- Reads the members of an object up to its end. -/
def readMembers? : (fuel : Nat) → List Char → Option (List (String × Json) × List Char)
  | 0, _ => none
  | fuel + 1, cs => do
    let (key, rest) ← readKey? cs
    let (value, rest) ← readValue? fuel rest
    match mark? ',' rest with
    | some rest => do
      let (members, rest) ← readMembers? fuel rest
      return ((key, value) :: members, rest)
    | none => return ([(key, value)], ← mark? '}' rest)

end

/-- The piece of data that a text spells. -/
def parse? (text : String) : Option Json := do
  let cs := text.toList
  let (data, rest) ← readValue? (cs.length + 1) cs
  if skipBlanks rest = [] then some data else none

end TableFormula.Json
