import TableFormula.Json.Writer
import TableFormula.Log.Record

/-!
# Log lines for programs

A record becomes one object on one line.  The error and the data of a record are members only where
there are any.  Whole numbers have to fit 64 bits.
-/

namespace TableFormula.Log

/-- Why a record has no line. -/
inductive LineFault where
  | time (fault : TimeFault)
  | message (fault : TemplateFault)
  | error (fault : RaisedFault)
  /-- A format that asks for an attribute the record does not have, or asks wrongly. -/
  | format (fault : TemplateFault)
  /-- A name of a level that has no colour. -/
  | colour
  /-- Data that are no text, where text is put together. -/
  | noText
  /-- A number that does not fit 64 bits. -/
  | number
  /-- A number with more digits than may be shown. -/
  | tooManyDigits
deriving DecidableEq, Repr

mutual

/-- Whether all whole numbers fit 64 bits, with or without sign. -/
def fits : Json → Bool
  | .integer n => decide (-9223372036854775808 ≤ n) && decide (n ≤ 18446744073709551615)
  | .array items => allFit items
  | .object members => membersFit members
  | .null | .bool _ | .float _ | .string _ => true

/-- Whether all whole numbers of an array fit 64 bits. -/
def allFit : List Json → Bool
  | [] => true
  | item :: items => fits item && allFit items

/-- Whether all whole numbers of an object fit 64 bits. -/
def membersFit : List (String × Json) → Bool
  | [] => true
  | (_, value) :: members => fits value && membersFit members

end

namespace Record

/-- The date and time of day with thousandths of a second.  Lines tell local time; it is taken to be
universal time. -/
def timestamp (r : Record) : Except LineFault String := do
  let time ← r.origin.timeText.mapError .time
  (fillTemplate "%s,%03d" (.ofArguments [.string time, r.origin.millis])).mapError .message

/-- The data of a record as a member, if there are any. -/
def dataMember (r : Record) : Option Json :=
  if r.data.isEmpty then none else some (.object r.data)

/-- A record as structured data. -/
def toJson (r : Record) : Except LineFault Json := do
  let timestamp ← r.timestamp
  let message ← r.text.mapError .message
  let error ← r.error.text?.mapError .error
  return .ofMembers
    [("timestamp", some (.string timestamp)),
      ("level", some r.levelName),
      ("logger", some r.logger),
      ("message", some (.string message)),
      ("module", some r.origin.moduleName),
      ("function", some r.origin.function),
      ("line", some r.origin.line),
      ("exception", error.map .string),
      ("extra", r.dataMember)]

/-- The line for a record. -/
def line (r : Record) : Except LineFault String := do
  let data ← r.toJson
  if fits data then return data.render else throw .number

end Record

end TableFormula.Log
