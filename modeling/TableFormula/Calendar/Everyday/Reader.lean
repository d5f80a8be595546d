import TableFormula.Calendar.Clock
import TableFormula.Calendar.Everyday.Entries
import TableFormula.Calendar.Iso

/-!
# Reading an everyday date

The words of a text are taken one after the other.  A number looks at the words around it: a colon
makes it an hour, a unit behind it a part of the clock, a dash or a slash the first of two or three
numbers of a date.  Words that mean something are remembered, fillers are passed over, and any other
word means that the text is no date.

What the text leaves open comes from the first of January 1970; a weekday without a day moves
forward to the next such weekday.  A year of two digits is completed from the current year.  A
distance from universal time is subtracted in the end.
-/

namespace TableFormula

namespace Everyday

open Text Number

/-! ## What has been found -/

/-- The parts of a date and a time that have been found so far. -/
structure Found where
  entries : Entries
  weekday : Option Nat
  hour : Option Nat
  minute : Option Nat
  second : Option Nat
  micro : Option Nat
  zone : Option String
  /-- Distance from universal time, in seconds. -/
  offset : Option Int
deriving DecidableEq, Repr

namespace Found

/-- Nothing found yet. -/
def nothing : Found := ⟨.empty, none, none, none, none, none, none, none⟩

/-- The hour of a half of the day on the full clock. -/
def fullHour (hour : Nat) (afternoon : Bool) : Nat :=
  if hour < 12 ∧ afternoon then hour + 12 else if hour = 12 ∧ ¬afternoon then 0 else hour

/-- Remembers a number of minutes; what follows the point are seconds. -/
def setMinute (f : Found) (a : Amount) : Except Stop Found := do
  return { f with minute := some a.whole, second := ← a.sixtieths }

/-- Remembers a number of seconds with its fraction, cut to microseconds. -/
def setSecond? (f : Found) (word : String) : Option Found := do
  let cs := word.toList
  let second ← natOfDigits? (cs.takeWhile (· ≠ '.'))
  match cs.dropWhile (· ≠ '.') with
  | [] => some { f with second := some second, micro := some 0 }
  | _ :: fraction =>
    let micro ← natOfDigits? ((fraction ++ List.replicate 6 '0').take 6)
    some { f with second := some second, micro := some micro }

/-- Remembers an amount of a unit of the clock. -/
def setUnit (f : Found) (word : String) (a : Amount) (unit : Option ClockUnit) :
    Except Stop Found :=
  match unit with
  | some .hour => do
    return { f with hour := some a.whole, minute := (← a.sixtieths).or f.minute }
  | some .minute => f.setMinute a
  | some .second => do return ← f.setSecond? word
  | none => .ok f

/-- Whether a word can name the zone: the hour is known and nothing about the zone is. -/
def takesZone (f : Found) (word : String) : Bool :=
  f.hour.isSome && f.zone.isNone && f.offset.isNone && isZoneName word

end Found

/-! ## One word -/

/-- What is left after a word: how many of the words behind it were used, and those words. -/
structure Step where
  found : Found
  used : Nat
  rest : List String

/-- The digits of a part of a word. -/
def part? (cs : List Char) (start count : Nat) : Option Nat :=
  natOfDigits? ((cs.drop start).take count)

/-- The unit that belongs to a number, and how many words stand up to it when it follows.  A unit
that stands in front gives its number the next smaller unit. -/
def unitOf? (before rest : List String) : Option (Option ClockUnit × Nat) :=
  let smaller : ClockUnit → Option ClockUnit
    | .hour => some .minute
    | .minute => some .second
    | .second => none
  let following : Option (Option ClockUnit × Nat) :=
    match rest with
    | [] => none
    | word :: others =>
      match unit? word, others with
      | some unit, _ => some (some unit, 1)
      | none, next :: _ => if word = " " then (unit? next).map fun unit => (some unit, 2) else none
      | none, [] => none
  let preceding : Option (Option ClockUnit × Nat) :=
    match before with
    | [] => none
    | word :: others =>
      match unit? word, others with
      | some unit, _ => some (smaller unit, 0)
      | none, earlier :: _ =>
        if rest = [] ∧ word = " " then (unit? earlier).map fun unit => (smaller unit, 0) else none
      | none, [] => none
  following <|> preceding

/-- A number that is followed by a dash, a slash or a point: the first of two or three. -/
def separated? (f : Found) (word sep : String) (rest : List String) : Option Step := do
  let entries ← f.entries.addDigits? word
  match rest with
  | [] => some ⟨{ f with entries }, 1, sep :: rest⟩
  | second :: others =>
    if isFiller second then some ⟨{ f with entries }, 1, sep :: rest⟩
    else
      let entries ←
        if second.toList.all isDigit then entries.addDigits? second
        else (month? second).bind entries.addMonth?
      if others.head? = some sep then
        let third ← others[1]?
        let entries ←
          match month? third with
          | some month => entries.addMonth? month
          | none => entries.addDigits? third
        some ⟨{ f with entries }, 4, sep :: rest⟩
      else some ⟨{ f with entries }, 2, sep :: rest⟩

/-- A number that is followed by a colon: hours, minutes and perhaps seconds. -/
def clock (f : Found) (a : Amount) (minutes : String) (rest : List String) :
    Except Stop (Found × Nat) := do
  let f ← { f with hour := some a.whole }.setMinute (← Amount.read? minutes)
  match rest with
  | ":" :: seconds :: _ => return (← f.setSecond? seconds, 4)
  | _ => return (f, 2)

/-- A number that no word behind it claims. -/
def plain? (f : Found) (a : Amount) (rest : List String) : Option Step :=
  let withHour (afternoon : Bool) : Found :=
    { f with hour := some (Found.fullHour a.whole afternoon) }
  match rest with
  | [] => do some ⟨{ f with entries := ← f.entries.addAmount? a }, 0, rest⟩
  | next :: others =>
    if isFiller next then
      match others.head?.bind afternoon? with
      | some afternoon => some ⟨withHour afternoon, 2, rest⟩
      | none => do some ⟨{ f with entries := ← f.entries.addAmount? a }, 1, rest⟩
    else match afternoon? next with
      | some afternoon =>
        if a.whole < 24 then some ⟨withHour afternoon, 1, rest⟩
        else if f.entries.couldBeDay a then do
          some ⟨{ f with entries := ← f.entries.addAmount? a }, 0, rest⟩
        else none
      | none =>
        if f.entries.couldBeDay a then do
          some ⟨{ f with entries := ← f.entries.addAmount? a }, 0, rest⟩
        else none

/-- A number, read by its length and by the words around it. -/
def number (f : Found) (word : String) (a : Amount) (before rest : List String) :
    Except Stop Step := do
  let cs := word.toList
  let n := cs.length
  let clockFollows : Bool :=
    match rest with
    | [] => false
    | next :: _ => next == ":" || (unit? next).isSome
  if f.entries.list.length = 3 ∧ (n = 2 ∨ n = 4) ∧ f.hour = none ∧ !clockFollows then
    let hour ← part? cs 0 2
    if n = 4 then
      return ⟨{ f with hour := some hour, minute := some (← part? cs 2 2) }, 0, rest⟩
    else return ⟨{ f with hour := some hour }, 0, rest⟩
  else if n = 6 ∨ (6 < n ∧ cs.idxOf '.' = 6) then
    if f.entries.list = [] ∧ '.' ∉ cs then
      let pair (i : Nat) : String := String.ofList ((cs.drop i).take 2)
      let entries ← f.entries.addDigits? (pair 0)
      let entries ← entries.addDigits? (pair 2)
      let entries ← entries.addDigits? (pair 4)
      return ⟨{ f with entries }, 0, rest⟩
    else
      let f := { f with hour := some (← part? cs 0 2), minute := some (← part? cs 2 2) }
      return ⟨← f.setSecond? (String.ofList (cs.drop 4)), 0, rest⟩
  else if n = 8 ∨ n = 12 ∨ n = 14 then
    let entries ← f.entries.addYear? (← part? cs 0 4)
    let entries ← entries.add? (← part? cs 4 2) none
    let entries ← entries.add? (← part? cs 6 2) none
    let f := { f with entries }
    if n = 8 then return ⟨f, 0, rest⟩
    else
      let f := { f with hour := some (← part? cs 8 2), minute := some (← part? cs 10 2) }
      if n = 12 then return ⟨f, 0, rest⟩
      else return ⟨{ f with second := some (← part? cs 12 2) }, 0, rest⟩
  else
    match unitOf? before rest with
    | some (unit, used) => return ⟨← f.setUnit word a unit, used, rest⟩
    | none =>
      match rest with
      | ":" :: minutes :: others =>
        let (f, used) ← clock f a minutes others
        return ⟨f, used, rest⟩
      | sep :: others =>
        if sep = "-" ∨ sep = "/" ∨ sep = "." then return ← separated? f word sep others
        else return ← plain? f a rest
      | [] => return ← plain? f a rest

/-- A month in words, with a day and a year behind it if a dash or a slash follows, or a year behind
`of`. -/
def monthName? (current : Nat) (f : Found) (month : Nat) (rest : List String) : Option Step := do
  let entries ← f.entries.addMonth? month
  match rest with
  | [] => some ⟨{ f with entries }, 0, rest⟩
  | sep :: others =>
    if sep = "-" ∨ sep = "/" then
      let entries ← entries.addDigits? (← others[0]?)
      if others[1]? = some sep then
        some ⟨{ f with entries := ← entries.addDigits? (← others[2]?) }, 4, rest⟩
      else some ⟨{ f with entries }, 2, rest⟩
    else match rest with
      | " " :: joint :: " " :: year :: _ =>
        if lower joint = "of" then
          if year.toList.all isDigit then
            let year ← natOfDigits? year.toList
            some ⟨{ f with entries := ← entries.addYear? (fullYear current year false) }, 4, rest⟩
          else some ⟨{ f with entries }, 4, rest⟩
        else some ⟨{ f with entries }, 0, rest⟩
      | _ => some ⟨{ f with entries }, 0, rest⟩

/-- A half of the day, which needs an hour that the short clock has. -/
def halfDay? (f : Found) (afternoon : Bool) (rest : List String) : Option Step := do
  let hour ← f.hour
  if hour ≤ 12 then some ⟨{ f with hour := some (Found.fullHour hour afternoon) }, 0, rest⟩
  else none

/-- The name of a zone.  A sign behind it is turned round: three hours *after* such a zone are three
hours *before* universal time; and then universal time is not the zone. -/
def zoneName (f : Found) (word : String) (rest : List String) : Step :=
  let named : Found :=
    { f with zone := some word, offset := if isUniversal word then some 0 else none }
  let apart : Found :=
    { f with zone := if isUniversal word then none else some word, offset := none }
  match rest with
  | "+" :: others => ⟨apart, 0, "-" :: others⟩
  | "-" :: others => ⟨apart, 0, "+" :: others⟩
  | _ => ⟨named, 0, rest⟩

/-- A distance from universal time after its sign, and perhaps the name of the zone in brackets. -/
def distance? (f : Found) (negative : Bool) (rest : List String) : Option Step := do
  let digits ← rest[0]?
  let cs := digits.toList
  let (hours, minutes, used) ←
    if cs.length = 4 then do some (← part? cs 0 2, ← part? cs 2 2, 1)
    else if rest[1]? = some ":" then do
      some (← natOfDigits? cs, ← natOfDigits? (← rest[2]?).toList, 3)
    else if cs.length ≤ 2 then do some (← natOfDigits? cs, 0, 1)
    else none
  let size : Int := ((hours * 60 + minutes) * 60 : Nat)
  let f := { f with offset := some (if negative then -size else size) }
  match rest.drop used with
  | filler :: "(" :: name :: ")" :: _ =>
    if isFiller filler && 3 ≤ name.length && { f with offset := none }.takesZone name then
      some ⟨{ f with zone := some name }, used + 4, rest⟩
    else some ⟨f, used, rest⟩
  | _ => some ⟨f, used, rest⟩

/-- Whether a word spells a number that is no finite one. -/
def isEndless (word : String) : Bool :=
  ["inf", "infinity", "nan"].contains (lower word)

/-- Takes one word, with the words before it (nearest first) and behind it. -/
def step (current : Nat) (f : Found) (before : List String) (word : String) (rest : List String) :
    Except Stop Step := do
  match Amount.read? word with
  | some a => number f word a before rest
  | none =>
    if isEndless word then throw .noDate
    else match weekday? word with
    | some day => return ⟨{ f with weekday := some day }, 0, rest⟩
    | none =>
      match month? word with
      | some month => return ← monthName? current f month rest
      | none =>
        match afternoon? word with
        | some afternoon => return ← halfDay? f afternoon rest
        | none =>
          if f.takesZone word then return zoneName f word rest
          else if f.hour.isSome && (word == "+" || word == "-") then
            return ← distance? f (word == "-") rest
          else if isFiller word then return ⟨f, 0, rest⟩
          else throw .noDate

/-- Takes the words one after the other; `fuel` bounds their number. -/
def takeAll (current : Nat) : (fuel : Nat) → Found → List String → List String → Except Stop Found
  | _, f, _, [] => .ok f
  | 0, _, _, _ :: _ => .error .noDate
  | fuel + 1, f, before, word :: rest => do
    let next ← step current f before word rest
    takeAll current fuel next.found ((next.rest.take next.used).reverse ++ word :: before)
      (next.rest.drop next.used)

/-! ## The moment -/

/-- The distance from universal time that was found; universal time by name has none. -/
def Found.distance (f : Found) : Int :=
  match f.zone with
  | some name => if isUniversal name then 0 else f.offset.getD 0
  | none => f.offset.getD 0

/-- The day, month and year that were found, the rest from the first of January 1970. -/
def Found.date? (current : Nat) (f : Found) : Option Date := do
  let parts ← f.entries.resolve?
  let year := (parts.year.map (fullYear current · f.entries.century)).getD 1970
  let date ← Date.of? year (parts.month.getD 1) (parts.day.getD 1)
  match f.weekday, parts.day with
  | some day, none => Date.ofDayNumber? (date.dayNumber + (7 + day - date.weekday) % 7 : Nat)
  | _, _ => some date

/-- The moment that was found, in universal time. -/
def Found.moment? (current : Nat) (f : Found) : Option Moment := do
  let date ← f.date? current
  let moment ← Moment.at? date (f.hour.getD 0) (f.minute.getD 0) (f.second.getD 0)
    (f.micro.getD 0)
  let offset ← Offset.of? (f.distance * 1000000)
  moment.shift? (-offset.micros)

/-- Reads an everyday date; a text that names no part of one is none.  Too many digits of an hour or
a minute are a fault. -/
def read (current : Nat) (cs : List Char) : Except Fault (Option Moment) :=
  let words := words cs
  match takeAll current words.length .nothing [] words with
  | .ok f => .ok (if f = .nothing then none else f.moment? current)
  | .error .noDate => .ok none
  | .error .tooManyDigits => .error .tooManyDigits

theorem read_nil (current : Nat) : read current [] = .ok none := by
  have hwords : words [] = [] := by simp [words, wordsOf]
  rw [read, hwords]
  rfl

theorem eq_tooManyDigits_of_read {current : Nat} {cs : List Char} {fault : Fault}
    (h : read current cs = .error fault) : fault = .tooManyDigits := by
  rw [read] at h
  split at h
  · cases h
  · cases h
  · cases h
    rfl

/-- The reader of everyday dates in a year. -/
def reader (current : Nat) : Reader :=
  ⟨read current, read_nil current, eq_tooManyDigits_of_read⟩

end Everyday

/-- The clock at the beginning of a day, with the reader of its year. -/
def Clock.atMidnight (d : Date) : Clock :=
  ⟨⟨.midnight d, none⟩, Everyday.reader d.year⟩

end TableFormula
