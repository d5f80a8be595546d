import TableFormula.Settings.Reading

/-!
# Settings

Six settings have defaults, may be set in the environment, and may be set by given values, which win
over the environment.  Names go in any case of letters.  Of several variables with one name the last
one counts, of several given values the first.  Values from the environment are texts; a given value
may be any piece of data.
-/

namespace TableFormula

open Text

/-- The settings of the engine. -/
structure Settings where
  environment : String
  logLevel : String
  jsonLogs : Bool
  /-- Whether failures are noted. -/
  debug : Bool
  /-- How deep a formula may be nested. -/
  maxDepth : Int
  /-- How many rows are looked at for the type of a column. -/
  sampleSize : Int
deriving DecidableEq, Repr

namespace Settings

/-- The settings where nothing is set. -/
def default : Settings :=
  ⟨"development", "INFO", false, false, 200, 10⟩

/-! ## Reading all settings -/

/-- What is given for a setting: by the first value with its name, or else by the last variable. -/
def given? (env : List (String × String)) (values : List (String × Json)) (name : String) :
    Option Json :=
  ((values.find? fun v => lower v.1 == name).map (·.2)).or
    ((env.reverse.find? fun v => lower v.1 == name).map fun v => .string v.2)

/-- Reads what is given for a setting; nothing given leaves the default. -/
def field {α : Type} (given : Option Json) (read : Json → Except Defect α) (standard : α) :
    Except Defect α :=
  match given with
  | some data => read data
  | none => .ok standard

/-- The settings for variables of the environment and given values. -/
def resolve (env : List (String × String)) (values : List (String × Json)) :
    Except (List Problem) Settings :=
  let given := given? env values
  let environment := field (given "environment") readText default.environment
  let logLevel := field (given "log_level") readLevel default.logLevel
  let jsonLogs := field (given "json_logs") readTruth default.jsonLogs
  let debug := field (given "formula_debug") readTruth default.debug
  let maxDepth := field (given "formula_max_depth") readPositive default.maxDepth
  let sampleSize := field (given "formula_inference_sample_size") readPositive default.sampleSize
  match environment, logLevel, jsonLogs, debug, maxDepth, sampleSize with
  | .ok environment, .ok logLevel, .ok jsonLogs, .ok debug, .ok maxDepth, .ok sampleSize =>
    .ok ⟨environment, logLevel, jsonLogs, debug, maxDepth, sampleSize⟩
  | environment, logLevel, jsonLogs, debug, maxDepth, sampleSize =>
    .error (Problem.ofField "environment" environment ++ Problem.ofField "log_level" logLevel ++
      Problem.ofField "json_logs" jsonLogs ++ Problem.ofField "formula_debug" debug ++
      Problem.ofField "formula_max_depth" maxDepth ++
      Problem.ofField "formula_inference_sample_size" sampleSize)

end Settings

end TableFormula
