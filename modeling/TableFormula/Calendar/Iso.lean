import TableFormula.Calendar.Moment
import TableFormula.Number.Notation
import TableFormula.Number.Numeral

/-!
# Dates and times in the international format

Writing is canonical: `2024-01-02`, `2024-01-02T03:04:05`, six digits of a fraction when there is
one, and the distance from universal time at the end.  Reading takes more:

* dates with or without dashes, by month or by numbered week;
* one character of any kind, then a time of one to three pairs of digits, with or without colons;
* digits of a fraction after `.` or `,`, which may follow any pair, of which six count;
* a distance from universal time, written like a time after its sign.

## What may be left over

A time that runs to the end must be read whole, up to a null character.  In front of a sign one
ASCII character after the last pair is passed over, and anything after six digits of a fraction.
-/

namespace TableFormula

open Number

/-! ## Writing -/

/-- `YYYY-MM-DD`. -/
def Date.isoText (d : Date) : List Char :=
  padded 4 d.year ++ '-' :: padded 2 d.month ++ '-' :: padded 2 d.day

/-- Hours, minutes and seconds, and microseconds if there are any. -/
def clockText (hour minute second micro : Nat) : List Char :=
  padded 2 hour ++ ':' :: padded 2 minute ++ ':' :: padded 2 second ++
    (if micro = 0 then [] else '.' :: padded 6 micro)

/-- The date and the time of day of a moment, with a separator between them. -/
def Moment.textWith (separator : Char) (m : Moment) : List Char :=
  m.date.isoText ++ separator :: clockText m.hour m.minute m.second m.micro

/-- `YYYY-MM-DDTHH:MM:SS`, with the fraction if there is one. -/
def Moment.isoText (m : Moment) : List Char :=
  m.textWith 'T'

/-- `YYYY-MM-DDTHH:MM:SS.mmmZ`: the fraction is cut to milliseconds. -/
def Moment.milliText (m : Moment) : List Char :=
  m.date.isoText ++ 'T' :: clockText m.hour m.minute m.second 0 ++
    '.' :: padded 3 (m.micro / 1000) ++ ['Z']

/-- The distance from universal time, with seconds and fraction only where they are not zero. -/
def Offset.isoText (o : Offset) : List Char :=
  let size := o.micros.natAbs
  let seconds := size / 1000000 % 60
  let micro := size % 1000000
  (if o.micros < 0 then '-' else '+') ::
    (padded 2 (size / 3600000000) ++ ':' :: padded 2 (size / 60000000 % 60) ++
      (if seconds = 0 ∧ micro = 0 then [] else ':' :: padded 2 seconds) ++
      (if micro = 0 then [] else '.' :: padded 6 micro))

/-- A stamp in the international format. -/
def Stamp.isoText (s : Stamp) : List Char :=
  s.moment.isoText ++ (match s.offset with | none => [] | some o => o.isoText)

namespace Iso

/-! ## Reading a date -/

/-- Reads exactly `n` digits. -/
def digits? (n : Nat) (cs : List Char) : Option (Nat × List Char) :=
  if n ≤ cs.length ∧ (cs.take n).all Char.isDigit then some (natOf (cs.take n), cs.drop n)
  else none

/-- Reads a given character. -/
def char? (c : Char) : List Char → Option (List Char)
  | [] => none
  | d :: rest => if c = d then some rest else none

/-- Whether the character at a place is a digit. -/
def digitAt (cs : List Char) (i : Nat) : Bool :=
  match cs[i]? with
  | some c => c.isDigit
  | none => false

/-- How many characters the date takes up, told by the characters after the year.  Where a week
could be followed by a day or by a time, a digit two places on speaks for a time. -/
def dateLength? (cs : List Char) : Option Nat :=
  if cs.length = 7 then some 7
  else if cs[4]? = some '-' then
    if cs[5]? = some 'W' then
      if cs[8]? = some '-' then
        if cs.length = 9 then none else if digitAt cs 10 then some 8 else some 10
      else some 8
    else some 10
  else if cs[4]? = some 'W' then
    let stop := 7 + ((cs.drop 7).takeWhile Char.isDigit).length
    if stop < 9 then some stop else if stop % 2 = 0 then some 7 else some 8
  else some 8

/-- Reads what follows the year and `W`. -/
def readWeek? (dashed : Bool) (year : Nat) (cs : List Char) : Option Date := do
  let (week, rest) ← digits? 2 cs
  if rest = [] then Date.ofWeek? year week 1
  else
    let rest ← if dashed then char? '-' rest else some rest
    let (day, _) ← digits? 1 rest
    Date.ofWeek? year week day

/-- Reads a date that takes up the whole text. -/
def readDate? (cs : List Char) : Option Date := do
  let (year, rest) ← digits? 4 cs
  let dashed := rest.head? == some '-'
  let rest := if dashed then rest.drop 1 else rest
  match rest with
  | 'W' :: rest => readWeek? dashed year rest
  | _ =>
    let (month, rest) ← digits? 2 rest
    let rest ← if dashed then char? '-' rest else some rest
    let (day, _) ← digits? 2 rest
    Date.of? year month day

/-! ## Reading a time -/

/-- The pairs of a time, its fraction in microseconds, and what is left over. -/
structure Clock where
  pairs : List Nat
  micro : Nat
  rest : List Char

/-- Reads the digits of a fraction, of which six count. -/
def readFraction? (cs : List Char) : Option (Nat × List Char) :=
  let counted := min 6 cs.length
  (digits? counted cs).map fun (value, rest) =>
    (value * Nat.pow 10 (6 - counted), rest.dropWhile Char.isDigit)

/-- Reads pairs of digits, `more` of them after this one, and a fraction.  The character after the
first pair settles whether colons stand between the pairs.  A single character at the end is left
over, if it is ASCII. -/
def readPairs? : (more : Nat) → (colons : Option Bool) → List Char → Option Clock
  | more, colons, cs =>
    match digits? 2 cs with
    | none => none
    | some (value, []) => some ⟨[value], 0, []⟩
    | some (value, [c]) => if c.toNat < 128 then some ⟨[value], 0, [c]⟩ else none
    | some (value, c :: rest) =>
      let colons := colons.getD (c == ':')
      let fraction (cs : List Char) : Option Clock :=
        (readFraction? cs).map fun (micro, rest) => ⟨[value], micro, rest⟩
      let continued (cs : List Char) : Option Clock :=
        match more with
        | 0 => fraction cs
        | more + 1 =>
          (readPairs? more (some colons) cs).map fun clock =>
            { clock with pairs := value :: clock.pairs }
      if colons && c == ':' then continued rest
      else if c = '.' ∨ c = ',' then fraction rest
      else if !colons then continued (c :: rest)
      else none

/-- Reads a time of one to three pairs. -/
def readClock? (cs : List Char) : Option Clock :=
  readPairs? 2 none cs

/-- Whether nothing is left over, up to a null character. -/
def Clock.isWhole (clock : Clock) : Bool :=
  clock.rest.isEmpty || clock.rest.head? == some '\x00'

/-- The pair at a place, zero when it is not written. -/
def Clock.pair (clock : Clock) (i : Nat) : Nat :=
  clock.pairs.getD i 0

/-- Reads a distance from universal time after its sign.  A distance of no full second is none. -/
def readOffset? (negative : Bool) (cs : List Char) : Option Offset := do
  let clock ← readClock? cs
  if clock.isWhole then
    let seconds := (clock.pair 0 * 60 + clock.pair 1) * 60 + clock.pair 2
    let size : Int := if seconds = 0 then 0 else seconds * 1000000 + clock.micro
    Offset.of? (if negative then -size else size)
  else none

/-- Reads a time and a distance from universal time. -/
def readTime? (date : Date) (cs : List Char) : Option Stamp := do
  let isSign (c : Char) : Bool := c == '+' || c == '-'
  let clock ← readClock? (cs.takeWhile (!isSign ·))
  let moment ← Moment.at? date (clock.pair 0) (clock.pair 1) (clock.pair 2) clock.micro
  match cs.dropWhile (!isSign ·) with
  | [] => if clock.isWhole then some ⟨moment, none⟩ else none
  | sign :: rest =>
    let offset ← readOffset? (sign == '-') rest
    some ⟨moment, some offset⟩

/-- Reads a stamp in the international format. -/
def read? (cs : List Char) : Option Stamp := do
  if cs.length < 7 then none
  else
    let length ← dateLength? cs
    let date ← readDate? (cs.take length)
    match cs.drop length with
    | [] => some ⟨Moment.midnight date, none⟩
    | _ :: time => readTime? date time

end Iso

end TableFormula
