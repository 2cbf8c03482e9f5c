import DatabaseTypes.Text.Basic

/-!
# What is wrong with a setting

* `Issue.Cause`    the reasons to refuse a value
* `Issue`          a refused value: where it stands, why it is refused, and how it is displayed
-/

namespace DatabaseTypes

/-- why the value of a setting is refused -/
inductive Issue.Cause where
  /-- no text for a truth value, and no number for one -/
  | unclearBool
  /-- neither a truth value nor something that can stand for one -/
  | notBool
  | notText
  /-- bytes that are no text -/
  | notUnicode
  | notList
  /-- a text that is no number -/
  | unclearNumber
  | notNumber
  /-- none of the words that are allowed, which are given -/
  | notAmong (words : List Text)
  /-- not a group of settings, whose name is given -/
  | notSection (name : Text)
  /-- a rule of its own is broken -/
  | broken (rule : Text)
  /-- there is no such setting -/
  | unknown
  deriving DecidableEq

/-- a refused value; `shown` is its text, unless that is too long -/
structure Issue where
  place : List Text
  cause : Issue.Cause
  shown : Option Text
  deriving DecidableEq

/-- words in quotes, the last two with an "or" between them -/
def Issue.choice : List Text → Text
  | [] => []
  | [w] => "'" ++ w ++ "'"
  | [v, w] => "'" ++ v ++ "' or '" ++ w ++ "'"
  | w :: ws => "'" ++ w ++ "', " ++ choice ws

namespace Issue.Cause

/-- the name of the sort of refusal -/
def name : Issue.Cause → Text
  | .unclearBool => "bool_parsing"
  | .notBool => "bool_type"
  | .notText => "string_type"
  | .notUnicode => "string_unicode"
  | .notList => "list_type"
  | .unclearNumber => "float_parsing"
  | .notNumber => "float_type"
  | .notAmong _ => "literal_error"
  | .notSection _ => "model_type"
  | .broken _ => "value_error"
  | .unknown => "extra_forbidden"

/-- the refusal in words -/
def message : Issue.Cause → Text
  | .unclearBool => "Input should be a valid boolean, unable to interpret input"
  | .notBool => "Input should be a valid boolean"
  | .notText => "Input should be a valid string"
  | .notUnicode => "Input should be a valid string, unable to parse raw data as a unicode string"
  | .notList => "Input should be a valid list"
  | .unclearNumber => "Input should be a valid number, unable to parse string as a number"
  | .notNumber => "Input should be a valid number"
  | .notAmong words => "Input should be " ++ Issue.choice words
  | .notSection name => "Input should be a valid dictionary or instance of " ++ name
  | .broken rule => "Value error, " ++ rule
  | .unknown => "Extra inputs are not permitted"

end Issue.Cause

/-- the issue with `part` in front of its place -/
def Issue.under (part : Text) (i : Issue) : Issue := { i with place := part :: i.place }

end DatabaseTypes
