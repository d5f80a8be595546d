import TableFormula.Text.Case
import TableFormula.Text.Digit
import TableFormula.Text.Letter

/-!
# The words of an everyday date

A date as people write it is cut into runs of letters, runs of digits, blanks and single signs.
Runs may hold points; such a run is taken apart again at its points when it shows that it is no
number.

The words that mean something are English and few: months, weekdays, parts of the day, units of the
clock, names of universal time, and the words and signs that are merely passed over.
-/

namespace TableFormula.Everyday

open Text

/-! ## Cutting a text -/

/-- What a run consists of so far, and whether it has a point in it. -/
inductive Run where
  | letters
  | digits
  | pointedLetters
  | pointedDigits
deriving DecidableEq

/-- How a run goes on with a character: its new state, or `none` where the run ends.  `run` holds
the characters so far, latest first. -/
def Run.extend? (state : Run) (run : List Char) (c : Char) : Option Run :=
  match state with
  | .letters =>
    if isLetter c then some .letters else if c = '.' then some .pointedLetters else none
  | .digits =>
    if isDigit c then some .digits
    else if c = '.' ∨ (c = ',' ∧ 2 ≤ run.length) then some .pointedDigits
    else none
  | .pointedLetters =>
    if c = '.' ∨ isLetter c then some .pointedLetters
    else if isDigit c && run.head? == some '.' then some .pointedDigits
    else none
  | .pointedDigits =>
    if c = '.' ∨ isDigit c then some .pointedDigits
    else if isLetter c && run.head? == some '.' then some .pointedLetters
    else none

/-- A run with its final state; `lettered` says that a further character was looked at while it
consisted of letters. -/
structure Cut where
  state : Run
  run : List Char
  lettered : Bool
  rest : List Char

/-- Follows a run to its end. -/
def cut (state : Run) (run : List Char) (lettered : Bool) : List Char → Cut
  | [] => ⟨state, run.reverse, lettered, []⟩
  | c :: rest =>
    let lettered := lettered || state == .letters || state == .pointedLetters
    match state.extend? run c with
    | some next => cut next (c :: run) lettered rest
    | none => ⟨state, run.reverse, lettered, c :: rest⟩

/-- The parts of a run between its points and commas, which are parts of their own. -/
def splitPoints (run : List Char) : List (List Char) :=
  run.splitBy fun a b => !(a == '.' || a == ',' || b == '.' || b == ',')

/-- The words that a finished run stands for. -/
def Cut.words (c : Cut) : List (List Char) :=
  let pointed := c.state == .pointedLetters || c.state == .pointedDigits
  let last := c.run.getLast?
  let parts :=
    if pointed && (c.lettered || c.run.count '.' > 1 || last == some '.' || last == some ',') then
      splitPoints c.run
    else [c.run]
  match parts with
  | [] => []
  | first :: others =>
    (if c.state = .pointedDigits ∧ '.' ∉ first then
      first.map fun d => if d = ',' then '.' else d
    else first) :: others

theorem length_rest_cut_le (state : Run) (run : List Char) (lettered : Bool) (cs : List Char) :
    (cut state run lettered cs).rest.length ≤ cs.length := by
  induction cs generalizing state run lettered with
  | nil => simp [cut]
  | cons c rest ih =>
    simp only [cut]
    split
    · exact Nat.le_succ_of_le (ih ..)
    · simp

/-- The words of a text, each blank a word of one space. -/
def wordsOf (cs : List Char) : List (List Char) :=
  match cs with
  | [] => []
  | c :: rest =>
    if isLetter c then
      let run := cut .letters [c] false rest
      run.words ++ wordsOf run.rest
    else if isDigit c then
      let run := cut .digits [c] false rest
      run.words ++ wordsOf run.rest
    else (if isBlank c then [' '] else [c]) :: wordsOf rest
termination_by cs.length
decreasing_by
  · exact Nat.lt_succ_of_le (length_rest_cut_le ..)
  · exact Nat.lt_succ_of_le (length_rest_cut_le ..)
  · simp

/-- The words of a text; null characters are not there. -/
def words (cs : List Char) : List String :=
  (wordsOf (cs.filter (· ≠ '\x00'))).map String.ofList

/-! ## Known words -/

/-- The place of a word in a list of spellings, in small or capital letters. -/
def placeIn (spellings : List (List String)) (word : String) : Option Nat :=
  spellings.findIdx? (·.contains (lower word))

/-- The number of a month, from one. -/
def month? (word : String) : Option Nat :=
  (placeIn [["jan", "january"], ["feb", "february"], ["mar", "march"], ["apr", "april"], ["may"],
    ["jun", "june"], ["jul", "july"], ["aug", "august"], ["sep", "sept", "september"],
    ["oct", "october"], ["nov", "november"], ["dec", "december"]] word).map (· + 1)

/-- The number of a weekday, from zero at Monday. -/
def weekday? (word : String) : Option Nat :=
  placeIn [["mon", "monday"], ["tue", "tuesday"], ["wed", "wednesday"], ["thu", "thursday"],
    ["fri", "friday"], ["sat", "saturday"], ["sun", "sunday"]] word

/-- A unit of the clock. -/
inductive ClockUnit where
  | hour
  | minute
  | second
deriving DecidableEq, Repr

/-- The unit that a word names. -/
def unit? (word : String) : Option ClockUnit :=
  match placeIn [["h", "hour", "hours"], ["m", "minute", "minutes"],
      ["s", "second", "seconds"]] word with
  | some 0 => some .hour
  | some 1 => some .minute
  | some 2 => some .second
  | _ => none

/-- Whether a word names a half of the day, and whether that is the second one. -/
def afternoon? (word : String) : Option Bool :=
  (placeIn [["am", "a"], ["pm", "p"]] word).map (· == 1)

/-- Whether a word means nothing here and is passed over. -/
def isFiller (word : String) : Bool :=
  [" ", ".", ",", ";", "-", "/", "'", "at", "on", "and", "ad", "m", "t", "of", "st", "nd", "rd",
    "th"].contains (lower word)

/-- Whether a word is a name of universal time. -/
def isUniversal (word : String) : Bool :=
  ["UTC", "GMT", "Z", "z"].contains word

/-- Whether a word has the form of a time zone's name. -/
def isZoneName (word : String) : Bool :=
  word.length ≤ 5 && (word.toList.all Char.isUpper || isUniversal word)

end TableFormula.Everyday
