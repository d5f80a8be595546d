import TableFormula.Json.Literal
import TableFormula.Number.Numeral
import TableFormula.Number.Places

/-!
# Templates

A template is a text with *places*.  A place begins with a percent sign and ends with a letter that
says how its argument is shown; between them may stand, in this order, the name of a member in
brackets, flags, a least width, and a precision behind a point.  `%%` is a percent sign.

Arguments fill the places from left to right.  A place with a name takes its argument from the
members instead, which then is the only argument left.  A width or a precision that is a star is an
argument of its own.  Most arguments are data; what is none can only be shown as it is written.

## Reading and filling

Reading a template never fails: a place that breaks off has no letter.  What is wrong with a place
is found out when it is filled, so of two faults the one further left is told.
-/

namespace TableFormula.Log

open Number

/-! ## Reading -/

/-- The name of a member at a place. -/
inductive PlaceName where
  | absent
  | given (name : String)
  | unclosed
deriving DecidableEq, Repr

/-- A width or a precision: none, a number, or the next argument. -/
inductive Measure where
  | absent
  | given (n : Nat)
  | asked
deriving DecidableEq, Repr

/-- A place of a template. -/
structure Place where
  name : PlaceName
  flags : List Char
  width : Measure
  precision : Measure
  /-- The letter at the end, if the template does not break off. -/
  letter : Option Char
deriving DecidableEq, Repr

/-- Whether a sign is a flag. -/
def isFlag (c : Char) : Bool :=
  ['-', '+', ' ', '#', '0'].contains c

/-- Reads a name up to the bracket that closes it, which `depth` further ones may precede. -/
def readName (depth : Nat) (name : List Char) : List Char → PlaceName × List Char
  | [] => (.unclosed, [])
  | '(' :: rest => readName (depth + 1) ('(' :: name) rest
  | ')' :: rest =>
    match depth with
    | 0 => (.given (String.ofList name.reverse), rest)
    | depth + 1 => readName depth (')' :: name) rest
  | c :: rest => readName depth (c :: name) rest

/-- Reads a width. -/
def readMeasure : List Char → Measure × List Char
  | '*' :: rest => (.asked, rest)
  | cs =>
    match spanDigits cs with
    | ([], _) => (.absent, cs)
    | (digits, rest) => (.given (natOf digits), rest)

/-- Reads a precision; a point with nothing behind it stands for zero. -/
def readPrecision : List Char → Measure × List Char
  | '.' :: cs =>
    match readMeasure cs with
    | (.absent, rest) => (.given 0, rest)
    | other => other
  | cs => (.absent, cs)

/-- Drops a letter for the size of a number, which means nothing. -/
def dropSizeLetter : List Char → List Char
  | [] => []
  | c :: rest => if c = 'h' ∨ c = 'l' ∨ c = 'L' then rest else c :: rest

/-- Reads a place behind its percent sign. -/
def readPlace (cs : List Char) : Place × List Char :=
  let (name, cs) : PlaceName × List Char :=
    match cs with
    | '(' :: rest => readName 0 [] rest
    | _ => (.absent, cs)
  let flags := cs.takeWhile isFlag
  let (width, cs) := readMeasure (cs.dropWhile isFlag)
  let (precision, cs) := readPrecision cs
  match dropSizeLetter cs with
  | [] => (⟨name, flags, width, precision, none⟩, [])
  | letter :: rest => (⟨name, flags, width, precision, some letter⟩, rest)

/-- A part of a template. -/
inductive Piece where
  | char (c : Char)
  | place (place : Place)
deriving DecidableEq, Repr

/-- The parts of a template, of which there are at most `fuel`. -/
def readPieces : (fuel : Nat) → List Char → List Piece
  | 0, _ => []
  | _ + 1, [] => []
  | fuel + 1, '%' :: '%' :: rest => .char '%' :: readPieces fuel rest
  | fuel + 1, '%' :: rest =>
    let (place, rest) := readPlace rest
    .place place :: readPieces fuel rest
  | fuel + 1, c :: rest => .char c :: readPieces fuel rest

/-- The parts of a template. -/
def piecesOf (template : String) : List Piece :=
  let cs := template.toList
  readPieces cs.length cs

/-! ## Arguments -/

/-- Why a template cannot be filled. -/
inductive TemplateFault where
  /-- Too few or too many arguments, or one of the wrong kind. -/
  | arguments
  /-- A percent sign that begins no place. -/
  | place
  /-- A name that no member has. -/
  | member
  /-- A whole number is asked for and there is none. -/
  | noValue
  /-- A number that is too large for its place. -/
  | outOfRange
  /-- A whole number with more digits than may be shown. -/
  | tooManyDigits
deriving DecidableEq, Repr

/-- What fills a place: data, or something else with a literal, if it can be shown. -/
inductive Filling where
  | data (data : Json)
  | other (literal? : Option String)

namespace Filling

/-- Whether a filling can be shown. -/
def hasText : Filling → Bool
  | data d => d.hasText
  | other literal? => literal?.isSome

/-- A filling in literal notation. -/
def literal : Filling → Except TemplateFault (List Char)
  | data d => if d.hasText then .ok d.literal else .error .tooManyDigits
  | other (some literal) => .ok literal.toList
  | other none => .error .tooManyDigits

/-- A filling inside a message, where a text stands as it is. -/
def text : Filling → Except TemplateFault (List Char)
  | data (.string s) => .ok s.toList
  | f => f.literal

/-- The data in the place of a number or a character. -/
def datum : Filling → Except TemplateFault Json
  | data d => .ok d
  | other _ => .error .arguments

/-- Several fillings with names, in literal notation. -/
def literalOfMembers? (members : List (String × Filling)) : Option String := do
  let shown ← members.mapM fun (name, f) => do
    let literal ← f.literal.toOption
    return String.ofList (Json.literalText name.toList ++ ':' :: ' ' :: literal)
  return "\x7b" ++ String.intercalate ", " shown ++ "\x7d"

end Filling

/-- What fills a template: the arguments that are left, and the members. -/
structure Supply where
  arguments : List Filling
  members : Option (String → Except TemplateFault Filling)

namespace Supply

/-- Arguments without members. -/
def ofArguments (arguments : List Json) : Supply :=
  ⟨arguments.map .data, none⟩

/-- The latest of some members with a name. -/
def lookup (members : List (String × Filling)) (name : String) : Except TemplateFault Filling :=
  match members.reverse.find? (·.1 == name) with
  | some (_, f) => .ok f
  | none => .error .member

/-- Members, which are also the only argument. -/
def ofMembers (members : List (String × Filling)) : Supply :=
  ⟨[.other (Filling.literalOfMembers? members)], some (lookup members)⟩

/-- The members of a piece of data.  A list has members, but none that a name finds. -/
def membersOf (data : Json) : Option (String → Except TemplateFault Filling) :=
  match data with
  | .object members => some (lookup (members.map fun (name, value) => (name, .data value)))
  | .array _ => some fun _ => .error .arguments
  | _ => none

/-- A single argument, which also gives its members. -/
def ofDatum (data : Json) : Supply :=
  ⟨[.data data], membersOf data⟩

/-- Takes the next argument. -/
def next (s : Supply) : Except TemplateFault (Filling × Supply) :=
  match s.arguments with
  | [] => .error .arguments
  | argument :: rest => .ok (argument, { s with arguments := rest })

/-- Turns to the member that a place names. -/
def turnTo (s : Supply) (name : PlaceName) : Except TemplateFault Supply :=
  match name, s.members with
  | .absent, _ => .ok s
  | _, none => .error .arguments
  | .unclosed, some _ => .error .place
  | .given name, some members => do return { s with arguments := [← members name] }

/-- Whether every argument has been used, as far as that is asked for. -/
def isDone (s : Supply) : Bool :=
  s.arguments.isEmpty || s.members.isSome

end Supply

/-! ## Widths and precisions -/

/-- A measure as a number: the one that is given, or the next argument.  A measure has to stay below
`limit`. -/
def Measure.take (limit : Nat) (s : Supply) : Measure → Except TemplateFault (Option Int × Supply)
  | absent => .ok (none, s)
  | given n => if n < limit then .ok (some n, s) else .error .place
  | asked => do
    let (argument, s) ← s.next
    let n : Int ← match argument with
      | .data (.integer n) => pure n
      | .data (.bool b) => pure (if b then 1 else 0)
      | _ => throw .arguments
    if n.natAbs < limit then return (some n, s) else throw .outOfRange

/-- The frame into which an argument is fitted. -/
structure Frame where
  flags : List Char
  width : Nat
  precision : Option Nat

/-- The frame that a place asks for.  A width below zero asks for the left side, a precision below
zero is zero. -/
def Place.frame (p : Place) (s : Supply) : Except TemplateFault (Frame × Supply) := do
  let (width, s) ← p.width.take (Nat.pow 2 63) s
  let (precision, s) ← p.precision.take (Nat.pow 2 31) s
  let width := width.getD 0
  return (⟨if width < 0 then '-' :: p.flags else p.flags, width.natAbs,
    precision.map Int.toNat⟩, s)

namespace Frame

/-- Whether a flag is set. -/
def has (f : Frame) (flag : Char) : Bool :=
  f.flags.contains flag

/-- Fills a text up to the width. -/
def fillText (f : Frame) (text : List Char) : List Char :=
  let blanks := List.replicate (f.width - text.length) ' '
  if f.has '-' then text ++ blanks else blanks ++ text

/-- Fills a number up to the width: zeros stand between its sign or mark and its digits, blanks
outside. -/
def fillNumber (f : Frame) (negative : Bool) (mark digits : List Char) : List Char :=
  let sign : List Char :=
    if negative then ['-'] else if f.has '+' then ['+'] else if f.has ' ' then [' '] else []
  let front := sign ++ mark
  let missing := f.width - (front ++ digits).length
  if f.has '-' then front ++ digits ++ List.replicate missing ' '
  else if f.has '0' then front ++ List.replicate missing '0' ++ digits
  else List.replicate missing ' ' ++ front ++ digits

end Frame

/-! ## Showing an argument -/

/-- A literal with every character beyond ASCII written by its number. -/
def asciiOnly (cs : List Char) : List Char :=
  cs.flatMap fun c =>
    if c.toNat < 0x80 then [c]
    else if c.toNat < 0x100 then '\\' :: 'x' :: Json.hexPadded 2 c.toNat
    else if c.toNat < 0x10000 then '\\' :: 'u' :: Json.hexPadded 4 c.toNat
    else '\\' :: 'U' :: Json.hexPadded 8 c.toNat

/-- An argument as a whole number; fractions are allowed where they may be cut. -/
def wholeArgument (cut : Bool) : Json → Except TemplateFault Int
  | .integer n => .ok n
  | .bool b => .ok (if b then 1 else 0)
  | .float x =>
    if cut then
      match kind x with
      | .finite d => .ok d.truncate
      | .infinite _ => .error .outOfRange
      | .nan => .error .noValue
    else .error .arguments
  | .null | .string _ | .array _ | .object _ => .error .arguments

/-- An argument as a whole number whose decimal digits are to be shown. -/
def decimalArgument (data : Json) : Except TemplateFault Int := do
  let n ← wholeArgument true data
  if isShowable n then return n else throw .tooManyDigits

/-- An argument as a fraction. -/
def fractionArgument : Json → Except TemplateFault Float
  | .integer n =>
    match ofInt n with
    | .ok x => .ok x
    | .error _ => .error .outOfRange
  | .bool b => .ok (if b then 1.0 else 0.0)
  | .float x => .ok x
  | .null | .string _ | .array _ | .object _ => .error .arguments

/-- An argument as a character: a text of one, or the number of one. -/
def charArgument : Json → Except TemplateFault Char
  | .string s =>
    match s.toList with
    | [c] => .ok c
    | _ => .error .arguments
  | .integer n => if 0 ≤ n ∧ n < 0x110000 then .ok (Char.ofNat n.toNat) else .error .outOfRange
  | .bool b => .ok (if b then '\x01' else '\x00')
  | .null | .float _ | .array _ | .object _ => .error .arguments

/-- A whole number in a base, behind a mark for the base if one is asked for. -/
def Frame.whole (f : Frame) (base : Nat) (mark : List Char) (n : Int) : List Char :=
  let digits := Nat.toDigits base n.natAbs
  f.fillNumber (n < 0) (if f.has '#' then mark else [])
    (List.replicate (f.precision.getD 0 - digits.length) '0' ++ digits)

/-- A fraction in a style, which takes its precision, whether a point is asked for, and the exact
value. -/
def Frame.fraction (f : Frame) (style : Nat → Bool → Scientific → List Char) (x : Float) :
    List Char :=
  match kind x with
  | .nan => f.fillNumber false [] ['n', 'a', 'n']
  | .infinite negative => f.fillNumber negative [] ['i', 'n', 'f']
  | .finite d => f.fillNumber d.negative [] (style (f.precision.getD 6) (f.has '#') d.exactDigits)

/-- Cuts a text to the precision. -/
def Frame.cut (f : Frame) (text : List Char) : List Char :=
  match f.precision with
  | some n => text.take n
  | none => text

/-- An argument as a letter asks for it. -/
def Frame.show (f : Frame) (letter : Char) (argument : Filling) :
    Except TemplateFault (List Char) :=
  let capital : List Char → List Char := List.map Char.toUpper
  match letter with
  | 's' => argument.text.map fun cs => f.fillText (f.cut cs)
  | 'r' => argument.literal.map fun cs => f.fillText (f.cut cs)
  | 'a' => argument.literal.map fun cs => f.fillText (f.cut (asciiOnly cs))
  | 'd' | 'i' | 'u' => (argument.datum >>= decimalArgument).map (f.whole 10 [])
  | 'o' => (argument.datum >>= wholeArgument false).map (f.whole 8 ['0', 'o'])
  | 'x' => (argument.datum >>= wholeArgument false).map (f.whole 16 ['0', 'x'])
  | 'X' => (argument.datum >>= wholeArgument false).map fun n => capital (f.whole 16 ['0', 'x'] n)
  | 'c' => (argument.datum >>= charArgument).map fun c => f.fillText [c]
  | 'e' => (argument.datum >>= fractionArgument).map (f.fraction Scientific.withExponent)
  | 'E' => (argument.datum >>= fractionArgument).map fun x =>
    capital (f.fraction Scientific.withExponent x)
  | 'f' => (argument.datum >>= fractionArgument).map (f.fraction Scientific.fixed)
  | 'F' => (argument.datum >>= fractionArgument).map fun x =>
    capital (f.fraction Scientific.fixed x)
  | 'g' => (argument.datum >>= fractionArgument).map (f.fraction Scientific.general)
  | 'G' => (argument.datum >>= fractionArgument).map fun x =>
    capital (f.fraction Scientific.general x)
  | _ => .error .place

/-! ## Filling -/

/-- Fills a place. -/
def Place.fill (p : Place) (s : Supply) : Except TemplateFault (List Char × Supply) := do
  let s ← s.turnTo p.name
  let (frame, s) ← p.frame s
  match p.letter with
  | none => throw .place
  | some letter =>
    let (argument, s) ← s.next
    return (← frame.show letter argument, s)

/-- Fills the places of a template; gives back what is left of the supply. -/
def fillPieces : List Piece → Supply → Except TemplateFault (List Char × Supply)
  | [], s => .ok ([], s)
  | .char c :: rest, s => do
    let (text, s) ← fillPieces rest s
    return (c :: text, s)
  | .place p :: rest, s => do
    let (shown, s) ← p.fill s
    let (text, s) ← fillPieces rest s
    return (shown ++ text, s)

/-- Fills a template; all arguments have to be used, unless there are members. -/
def fillTemplate (template : String) (s : Supply) : Except TemplateFault String := do
  let (text, s) ← fillPieces (piecesOf template) s
  if s.isDone then return String.ofList text else throw .arguments

end TableFormula.Log
