import TableFormula.Json.Literal
import TableFormula.Value.Basic

/-!
# Values inside a list

A list shows its items in literal notation, as messages show data.  Decimals, dates and moments are
written there as what makes them: a name and its arguments.

A whole number with too many digits cannot be shown, and neither can a list that holds one.
-/

namespace TableFormula

open Number

/-- A name with some arguments. -/
def callText (name : String) (args : List (List Char)) : List Char :=
  name.toList ++ '(' :: List.intercalate [',', ' '] args ++ [')']

/-- A date as what makes it. -/
def Date.literal (d : Date) : List Char :=
  callText "datetime.date" ([d.year, d.month, d.day].map decimalDigits)

/-- A distance from universal time as what makes it.  Only its days may be negative, and what is zero
is left out. -/
def Offset.literal (o : Offset) : List Char :=
  if o.micros = 0 then "datetime.timezone.utc".toList
  else
    let rest := o.micros % microsPerDay
    let parts : List (String × Int) := [("days", o.micros / microsPerDay),
      ("seconds", rest / 1000000), ("microseconds", rest % 1000000)]
    let shown := parts.filter (·.2 != 0)
    callText "datetime.timezone"
      [callText "datetime.timedelta" (shown.map fun (name, n) => name.toList ++ '=' :: integerText n)]

/-- A stamp as what makes it.  Seconds and microseconds are left out when nothing follows them. -/
def Stamp.literal (s : Stamp) : List Char :=
  let m := s.moment
  let fine := if m.micro != 0 then [m.second, m.micro] else if m.second != 0 then [m.second] else []
  let zone := match s.offset with
    | none => []
    | some o => ["tzinfo=".toList ++ o.literal]
  callText "datetime.datetime"
    (([m.date.year, m.date.month, m.date.day, m.hour, m.minute] ++ fine).map decimalDigits ++ zone)

namespace Value

mutual

/-- A value inside a list. -/
def literal : Value → List Char
  | blank => Json.null.literal
  | truth b => (Json.bool b).literal
  | text s => (Json.string s).literal
  | integer n => (Json.integer n).literal
  | float x => (Json.float x).literal
  | decimal d => callText "Decimal" [Json.literalText d.text]
  | date d => d.literal
  | stamp s => s.literal
  | list [] => ['[', ']']
  | list (item :: items) => '[' :: item.literal ++ literalItems items

/-- The further items of a list, up to its end. -/
def literalItems : List Value → List Char
  | [] => [']']
  | item :: items => ',' :: ' ' :: item.literal ++ literalItems items

end

mutual

/-- Whether a value has a text. -/
def hasText : Value → Bool
  | integer n => isShowable n
  | list items => haveTexts items
  | blank | truth _ | text _ | float _ | decimal _ | date _ | stamp _ => true

/-- Whether all items of a list have texts. -/
def haveTexts : List Value → Bool
  | [] => true
  | item :: items => item.hasText && haveTexts items

end

end Value

end TableFormula
