import TableFormula.Json.Literal
import TableFormula.Number.Numeral
import TableFormula.Problem
import TableFormula.Text.Case

/-!
# Reading a setting

A setting is a text, a log level, a truth value or a whole number, and any piece of data may be
given for it.  Truth values and whole numbers are also read from numbers and from text.

## Whole numbers in text

A whole number is a sign, which may be missing, and a *size*.  The plain form of a size is digits
without a zero in front.  Before that form is asked for, blanks at the ends of the text are dropped
and the size is *cleaned*: zeros in front, a fraction of zeros and underscores between digits are
dropped.  A number whose digits run on beyond a limit is refused by its length.
-/

namespace TableFormula.Settings

open Number Text

/-! ## Whole numbers -/

/-- The greatest length of a whole number in text, with its sign. -/
def lengthLimit : Nat := 4300

/-- Whether a whole number fits 64 bits with its sign. -/
def isShort (n : Int) : Bool :=
  decide (-9223372036854775808 ≤ n) && decide (n ≤ 9223372036854775807)

/-- Blanks that are dropped at the ends of a text: white space, without the separators below the
space. -/
def isMargin (c : Char) : Bool :=
  isBlank c && !(0x1C ≤ c.toNat && c.toNat ≤ 0x1F)

/-- A text without blanks at its ends. -/
def trimMargins (cs : List Char) : List Char :=
  ((cs.dropWhile isMargin).reverse.dropWhile isMargin).reverse

/-- Whether a minus stands in front, and the text without the one sign in front. -/
def splitSign : List Char → Bool × List Char
  | '-' :: rest => (true, rest)
  | '+' :: rest => (false, rest)
  | cs => (false, cs)

/-- What follows zeros and underscores in front, with the last of them where no digit comes. -/
def afterZeros? (last : Char) : List Char → Option (List Char)
  | [] => some [last]
  | c :: rest =>
    if c = '0' ∨ c = '_' then afterZeros? c rest
    else if c.isDigit then some (c :: rest)
    else if c = '.' then some (last :: c :: rest)
    else none

/-- Drops the zeros in front of a size, which has to begin with a digit. -/
def dropZeros? : List Char → Option (List Char)
  | [] => none
  | c :: rest =>
    if c = '0' then afterZeros? c rest
    else if c.isDigit then some (c :: rest)
    else none

/-- A text without a point that only zeros follow. -/
def dropZeroFraction (cs : List Char) : List Char :=
  let fraction := (cs.dropWhile (· != '.')).drop 1
  if fraction ≠ [] ∧ fraction.all (· == '0') then cs.takeWhile (· != '.') else cs

/-- A text without its underscores, if they stand singly and not at its ends. -/
def dropUnderscores (cs : List Char) : List Char :=
  let doubled := (cs.zip (cs.drop 1)).contains ('_', '_')
  if doubled ∨ cs.head? = some '_' ∨ cs.getLast? = some '_' then cs else cs.filter (· != '_')

/-- A size cleaned for the plain form. -/
def clean? (cs : List Char) : Option (List Char) :=
  (dropZeros? cs).map fun digits => dropUnderscores (dropZeroFraction digits)

/-- Reads the plain form of a size, in at most `limit` digits. -/
def plainSize (limit : Nat) (cs : List Char) : Except Defect Nat :=
  match cs with
  | [] => .error .unreadableInteger
  | ['0'] => .ok 0
  | '0' :: _ => .error .unreadableInteger
  | cs =>
    if limit < (cs.takeWhile Char.isDigit).length then .error .tooLong
    else if cs.all Char.isDigit then .ok (natOf cs)
    else .error .unreadableInteger

/-- Reads a size, in at most `limit` digits after cleaning. -/
def readSize (limit : Nat) (cs : List Char) : Except Defect Nat :=
  match clean? cs with
  | some digits => plainSize limit digits
  | none => .error .unreadableInteger

/-- The whole number that a text spells.  A minus takes one place of the length. -/
def intOfText (s : String) : Except Defect Int := do
  let (negative, cs) := splitSign (trimMargins s.toList)
  if negative then return -((← readSize (lengthLimit - 1) cs : Nat) : Int)
  else return (← readSize lengthLimit cs : Nat)

/-- The whole number that a fraction is; it has to fit 64 bits. -/
def wholeOfFloat (x : Float) : Except Defect Int :=
  match kind x with
  | .finite d =>
    if !d.isWhole then .error .fraction
    else if d.floor.natAbs < Nat.pow 2 63 then .ok d.floor
    else .error .tooLong
  | _ => .error .notFinite

/-- Reads a whole number. -/
def readInt : Json → Except Defect Int
  | .bool b => .ok (if b then 1 else 0)
  | .integer n => .ok n
  | .float x => wholeOfFloat x
  | .string s => intOfText s
  | .null | .array _ | .object _ => .error .noInteger

/-- Reads a whole number from one on. -/
def readPositive (data : Json) : Except Defect Int := do
  let n ← readInt data
  if n < 1 then throw .tooSmall else return n

/-! ## Truth values -/

/-- The words for a truth value, in any case of ASCII letters. -/
def truthWords : List (String × Bool) :=
  [("0", false), ("off", false), ("f", false), ("false", false), ("n", false), ("no", false),
    ("1", true), ("on", true), ("t", true), ("true", true), ("y", true), ("yes", true)]

/-- One and zero are truth values too; numbers beyond 64 bits are not looked at. -/
def truthOfInt (n : Int) : Except Defect Bool :=
  if n = 0 then .ok false
  else if n = 1 then .ok true
  else if isShort n then .error .unreadableTruth
  else .error .noTruth

/-- Reads a truth value. -/
def readTruth : Json → Except Defect Bool
  | .bool b => .ok b
  | .string s =>
    match truthWords.lookup (s.map Char.toLower) with
    | some b => .ok b
    | none => .error .unreadableTruth
  | .integer n => truthOfInt n
  | .float x =>
    match wholeOfFloat x with
    | .ok n => truthOfInt n
    | .error _ => .error .noTruth
  | .null | .array _ | .object _ => .error .noTruth

/-! ## Texts -/

/-- Reads a text. -/
def readText : Json → Except Defect String
  | .string s => .ok s
  | _ => .error .noText

/-- Reads a log level, of which only the letters are looked at. -/
def readLevel (data : Json) : Except Defect String :=
  .ok (upper data.shown)

end TableFormula.Settings
