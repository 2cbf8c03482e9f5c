import DatabaseTypes.Text.Basic
import DatabaseTypes.Json.Basic

/-!
# Reported problems

What can go wrong with the settings, the model and the output, as it is told to the user: every
problem has a number, a name, a message and details.

* `Problem`            the problems
* `Problem.family`     which part of a run a problem belongs to
* `Problem.code`, `Problem.name`, `Problem.message`, `Problem.details`   what is reported
* `Problem.summary`    number, name and message in one line
* `Problem.toJson`     the report of a request
-/

namespace DatabaseTypes

/-- a problem that is reported to the user -/
inductive Problem where
  /-- the settings file cannot be read -/
  | settingsUnreadable (path reason : Text)
  /-- a setting has a value that it cannot have -/
  | settingInvalid (field value reason : Text)
  /-- a setting without a default is not set -/
  | settingMissing (field : Text)
  /-- the model file does not exist -/
  | modelNotFound (path : Text)
  /-- the model file cannot be read -/
  | modelUnreadable (path reason : Text)
  /-- the document is no model -/
  | modelInvalid (reason : Text)
  /-- the output cannot be written -/
  | writeFailed (path reason : Text)
  /-- anything else -/
  | unexpected (reason : Text) (circumstances : List (Text × Json))

/-- the parts of a run that report problems -/
inductive Problem.Family where
  | settings
  | model
  | output
  | unforeseen
  deriving DecidableEq

namespace Problem

/-- the part of a run that reports the problem -/
def family : Problem → Family
  | .settingsUnreadable .. | .settingInvalid .. | .settingMissing .. => .settings
  | .modelNotFound .. | .modelUnreadable .. | .modelInvalid .. => .model
  | .writeFailed .. => .output
  | .unexpected .. => .unforeseen

/-- the number of the problem; its thousands tell the family -/
def code : Problem → Nat
  | .settingsUnreadable .. => 2001
  | .settingInvalid .. => 2002
  | .settingMissing .. => 2003
  | .modelNotFound .. => 3001
  | .modelUnreadable .. => 3002
  | .modelInvalid .. => 3003
  | .writeFailed .. => 4001
  | .unexpected .. => 9001

/-- the name of the problem -/
def name : Problem → Text
  | .settingsUnreadable .. => "CONFIG_PARSE_ERROR"
  | .settingInvalid .. => "CONFIG_INVALID_VALUE"
  | .settingMissing .. => "CONFIG_MISSING_REQUIRED"
  | .modelNotFound .. => "MODEL_NOT_FOUND"
  | .modelUnreadable .. => "MODEL_PARSE_ERROR"
  | .modelInvalid .. => "MODEL_INVALID"
  | .writeFailed .. => "OUTPUT_WRITE_FAILED"
  | .unexpected .. => "INTERNAL_ERROR"

/-- the problem in words -/
def message : Problem → Text
  | .settingsUnreadable path reason => "Failed to parse config at " ++ path ++ ": " ++ reason
  | .settingInvalid field _ reason => "Invalid value for '" ++ field ++ "': " ++ reason
  | .settingMissing field => "Missing required config field: " ++ field
  | .modelNotFound path => "Model file not found: " ++ path
  | .modelUnreadable path reason => "Failed to parse model at " ++ path ++ ": " ++ reason
  | .modelInvalid reason => "Invalid model: " ++ reason
  | .writeFailed path reason => "Failed to write " ++ path ++ ": " ++ reason
  | .unexpected reason _ => "Internal error: " ++ reason

/-- the particulars of the problem under their names -/
def details : Problem → List (Text × Json)
  | .settingsUnreadable path reason => [("path", .text path), ("reason", .text reason)]
  | .settingInvalid field value reason =>
    [("field", .text field), ("value", .text value), ("reason", .text reason)]
  | .settingMissing field => [("field", .text field)]
  | .modelNotFound path => [("path", .text path)]
  | .modelUnreadable path reason => [("path", .text path), ("reason", .text reason)]
  | .modelInvalid reason => [("reason", .text reason)]
  | .writeFailed path reason => [("path", .text path), ("reason", .text reason)]
  | .unexpected _ circumstances => circumstances

/-- number, name and message in one line -/
def summary (p : Problem) : Text :=
  ['['] ++ Text.ofNat p.code ++ "] " ++ p.name ++ ": " ++ p.message

/-- the report of a problem to the sender of a request -/
def toJson (p : Problem) : Json :=
  .object [("code", .int p.code), ("error", .text p.name), ("message", .text p.message),
    ("details", .object p.details)]

end Problem
end DatabaseTypes
