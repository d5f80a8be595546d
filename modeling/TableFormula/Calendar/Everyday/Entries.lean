import TableFormula.Calendar.Date
import TableFormula.Calendar.Everyday.Word
import TableFormula.Number.Rounding

/-!
# Which number is the year

The numbers of a date are collected in the order in which they are written.  Some carry a label: a
month that is written as a word, a year of more than two digits.  When all are there, `resolve?`
settles what the others mean: a number above 31 is a year, a number above 12 is no month, and
otherwise the month stands before the day and both before the year.
-/

namespace TableFormula.Everyday

open Text Calendar Number

/-! ## Stopping -/

/-- Why the reading of an everyday date stops. -/
inductive Stop where
  /-- The text is no date. -/
  | noDate
  /-- An hour or a minute with so many digits that what follows its point cannot be worked out. -/
  | tooManyDigits
deriving DecidableEq, Repr

/-- What is not there makes a text no date. -/
instance : MonadLift Option (Except Stop) where
  monadLift
    | some a => .ok a
    | none => .error .noDate

/-! ## Amounts -/

/-- A number of an everyday date: a whole part and the digits after a point. -/
structure Amount where
  whole : Nat
  fraction : Nat
  places : Nat
deriving DecidableEq, Repr

namespace Amount

/-- Reads digits with at most one point among them. -/
def read? (word : String) : Option Amount :=
  let cs := word.toList
  match cs.takeWhile (· ≠ '.'), cs.dropWhile (· ≠ '.') with
  | whole, [] => (natOfDigits? whole).map fun w => ⟨w, 0, 0⟩
  | whole, _ :: fraction => do
    some ⟨← natOfDigits? whole, ← natOfDigits? fraction, fraction.length⟩

/-- The number of digits to which what follows the point is worked out. -/
def precision : Nat := 28

/-- What follows the point, in sixtieths cut to a whole number; `none` where nothing follows.  The
part and its multiple are both rounded to the precision, so sixty sixtieths are possible.  The
digits in front of the point must not outnumber the precision. -/
def sixtieths (a : Amount) : Except Stop (Option Nat) :=
  if Nat.pow 10 precision ≤ a.whole then .error .tooManyDigits
  else if a.fraction = 0 then .ok none
  else
    let part := Scientific.round precision ⟨a.fraction, -(a.places : Int)⟩
    .ok (some ((part.times 60).round precision).floor)

/-- Whether the amount is at most `n`. -/
def atMost (a : Amount) (n : Nat) : Bool :=
  a.whole < n || (a.whole == n && a.fraction == 0)

end Amount

/-! ## Entries -/

/-- What a number of a date may be labelled as. -/
inductive Label where
  | year
  | month
deriving DecidableEq, Repr

/-- The numbers of a date so far, each with its label, and whether a year was written in full. -/
structure Entries where
  list : List (Nat × Option Label)
  century : Bool
deriving DecidableEq, Repr

namespace Entries

/-- No numbers yet. -/
def empty : Entries := ⟨[], false⟩

/-- The place and value of the number with a label. -/
def find? (e : Entries) (label : Label) : Option Nat :=
  (e.list.find? fun entry => entry.2 == some label).map (·.1)

/-- Adds a number; a label may be given once. -/
def add? (e : Entries) (value : Nat) (label : Option Label) : Option Entries :=
  if label.isSome && e.list.any (·.2 == label) then none
  else some { e with list := e.list ++ [(value, label)] }

/-- Adds a month that is written as a word. -/
def addMonth? (e : Entries) (month : Nat) : Option Entries :=
  e.add? month (some .month)

/-- Adds a number that is written in full, and so is a year. -/
def addYear? (e : Entries) (year : Nat) : Option Entries :=
  { e with century := true }.add? year (some .year)

/-- Adds a run of digits, which is a year when there are more than two. -/
def addDigits? (e : Entries) (word : String) : Option Entries := do
  let value ← natOfDigits? word.toList
  if 2 < word.length then e.addYear? value else e.add? value none

/-- Adds an amount, which is a year when it is above a hundred. -/
def addAmount? (e : Entries) (a : Amount) : Option Entries :=
  if a.atMost 100 then e.add? a.whole none else e.addYear? a.whole

/-- Whether an amount could be the day of the month; a month without a year may have its leap
day. -/
def couldBeDay (e : Entries) (a : Amount) : Bool :=
  1 ≤ a.whole && match e.find? .month, e.find? .year with
    | none, _ => a.atMost 31
    | some month, none => a.atMost (monthLength 2000 month)
    | some month, some year => a.atMost (monthLength year month)

/-! ## Meaning -/

/-- A year, a month and a day, as far as they are known. -/
structure Parts where
  year : Option Nat
  month : Option Nat
  day : Option Nat
deriving DecidableEq, Repr

/-- What three numbers without a month in words mean. -/
def ofThree (a b c : Nat) (yearFirst : Bool) : Parts :=
  if a > 31 || yearFirst then ⟨some a, some b, some c⟩
  else if a > 12 then ⟨some c, some b, some a⟩
  else ⟨some c, some a, some b⟩

/-- What the numbers mean; more than three have no meaning. -/
def resolve? (e : Entries) : Option Parts :=
  match e.list with
  | [] => some ⟨none, none, none⟩
  | [(a, some .year)] => some ⟨some a, none, none⟩
  | [(a, some .month)] => some ⟨none, some a, none⟩
  | [(a, none)] => some (if a > 31 then ⟨some a, none, none⟩ else ⟨none, none, some a⟩)
  | [(a, some .month), (b, some .year)] => some ⟨some b, some a, none⟩
  | [(a, some .year), (b, some .month)] => some ⟨some a, some b, none⟩
  | [(a, some .month), (b, _)] =>
    some (if b > 31 then ⟨some b, some a, none⟩ else ⟨none, some a, some b⟩)
  | [(a, _), (b, some .month)] =>
    some (if a > 31 then ⟨some a, some b, none⟩ else ⟨none, some b, some a⟩)
  | [(a, _), (b, _)] =>
    some (if a > 31 then ⟨some a, some b, none⟩
      else if b > 31 then ⟨some b, some a, none⟩
      else ⟨none, some a, some b⟩)
  | [(a, some .month), (b, some .year), (c, _)] => some ⟨some b, some a, some c⟩
  | [(a, some .month), (b, _), (c, some .year)] => some ⟨some c, some a, some b⟩
  | [(a, some .year), (b, some .month), (c, _)] => some ⟨some a, some b, some c⟩
  | [(a, _), (b, some .month), (c, some .year)] => some ⟨some c, some b, some a⟩
  | [(a, some .year), (b, _), (c, some .month)] => some ⟨some a, some c, some b⟩
  | [(a, _), (b, some .year), (c, some .month)] => some ⟨some b, some c, some a⟩
  | [(a, some .month), (b, _), (c, _)] =>
    some (if b > 31 then ⟨some b, some a, some c⟩ else ⟨some c, some a, some b⟩)
  | [(a, _), (b, some .month), (c, _)] =>
    some (if a > 31 then ⟨some a, some b, some c⟩ else ⟨some c, some b, some a⟩)
  | [(a, _), (b, _), (c, some .month)] =>
    some (if b > 31 then ⟨some b, some c, some a⟩ else ⟨some a, some c, some b⟩)
  | [(a, label), (b, _), (c, _)] => some (ofThree a b c (label == some .year))
  | _ => none

end Entries

/-- A year of two digits lies within fifty years of the current one unless it was written in full.
-/
def fullYear (current year : Nat) (century : Bool) : Nat :=
  if year < 100 && !century then
    let near := year + current / 100 * 100
    if current + 50 ≤ near then near - 100
    else if near + 50 < current then near + 100
    else near
  else year

end TableFormula.Everyday
