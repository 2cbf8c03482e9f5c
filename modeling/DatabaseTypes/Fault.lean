import DatabaseTypes.Text.Printable
import DatabaseTypes.Text.Utf8
import DatabaseTypes.Json.Basic
import DatabaseTypes.Limit
import DatabaseTypes.Problem
import DatabaseTypes.Settings.Issue

/-!
# Faults

Why a step fails.  A fault is a cause; its wording is in `Fault.message`.

* `SystemFault`      a file operation or a program that the system refuses
* `CalendarFault`    a date or a time that does not exist
* `Fault`            every cause
* `Fault.message`    the cause in words
-/

namespace DatabaseTypes

/-! ## the system -/

/-- why the system refuses an operation -/
inductive SystemCause where
  | notFound
  | notPermitted
  | alreadyThere
  | notDirectory
  | isDirectory
  | nameTooLong
  | tooManyLinks
  | argumentsTooLong
  deriving DecidableEq

/-- an operation that the system refuses, with the path it is about -/
structure SystemFault where
  cause : SystemCause
  path : Text
  deriving DecidableEq

/-- the number of a cause -/
def SystemCause.number : SystemCause → Nat
  | .notFound => 2
  | .notPermitted => 13
  | .alreadyThere => 17
  | .notDirectory => 20
  | .isDirectory => 21
  | .nameTooLong => 36
  | .tooManyLinks => 40
  | .argumentsTooLong => 7

/-- a cause in words -/
def SystemCause.message : SystemCause → Text
  | .notFound => "No such file or directory"
  | .notPermitted => "Permission denied"
  | .alreadyThere => "File exists"
  | .notDirectory => "Not a directory"
  | .isDirectory => "Is a directory"
  | .nameTooLong => "File name too long"
  | .tooManyLinks => "Too many levels of symbolic links"
  | .argumentsTooLong => "Argument list too long"

/-- the refusal in words -/
def SystemFault.message (f : SystemFault) : Text :=
  "[Errno " ++ Text.ofNat f.cause.number ++ "] " ++ f.cause.message ++ ": " ++ f.path.quoted

/-! ## the calendar -/

/-- a part of a date or a time that is out of its range -/
inductive CalendarFault where
  | year (value : Nat)
  | month
  | day
  | hour
  | minute
  | second
  /-- an offset, in minutes, that is not below one day -/
  | offset (minutes : Int)
  deriving DecidableEq

/-- a span of minutes by its days and seconds -/
def spanText (minutes : Int) : Text :=
  let given (name : Text) (n : Int) : List Text :=
    if n = 0 then [] else [name ++ ['='] ++ Text.ofInt n]
  let parts := given "days" (Int.fdiv minutes 1440) ++ given "seconds" (Int.fmod minutes 1440 * 60)
  "datetime.timedelta(" ++ (if parts.isEmpty then ['0'] else Text.joined ", " parts) ++ ")"

/-- the part that is out of range, in words -/
def CalendarFault.message : CalendarFault → Text
  | .year n => "year " ++ Text.ofNat n ++ " is out of range"
  | .month => "month must be in 1..12"
  | .day => "day is out of range for month"
  | .hour => "hour must be in 0..23"
  | .minute => "minute must be in 0..59"
  | .second => "second must be in 0..59"
  | .offset minutes =>
    "offset must be a timedelta strictly between -timedelta(hours=24) and timedelta(hours=24), not "
      ++ spanText minutes ++ ['.']

/-! ## all faults -/

/-- why a step fails -/
inductive Fault where
  /-- an object lacks a member -/
  | missing (key : Text)
  /-- a member is asked of something that is no object -/
  | noMembers (kind : Json.Kind)
  /-- something cannot be gone through -/
  | notIterable (kind : Json.Kind)
  /-- a sort of values lacks an operation -/
  | lacks (kind : Json.Kind) (operation : Text)
  /-- a text is needed -/
  | notText (kind : Json.Kind)
  /-- a path is needed -/
  | notPath (kind : Json.Kind)
  /-- a problem that is reported as such -/
  | problem (p : Problem)
  /-- settings are refused -/
  | refused (issues : List Issue)
  /-- the value of an environment variable for a group of settings is no JSON text -/
  | unreadableVariable (group : Text)
  /-- a group of settings has a name that is no text -/
  | nameNotText
  /-- bytes are not UTF-8 -/
  | undecodable (f : Utf8Fault)
  /-- a text has halves of surrogate pairs -/
  | unencodable (f : HalfFault)
  /-- the system refuses an operation -/
  | system (f : SystemFault)
  /-- a path holds a null character -/
  | nullInPath
  /-- the home directory of a user is not known -/
  | homeless
  /-- a closing tag without its opening tag, with its place -/
  | unopenedTag (tag : Text) (position : Nat)
  /-- a closing tag without a name where no tag is open, with its place -/
  | nothingToClose (position : Nat)
  /-- what is given to a tag cannot be read, or the parameters in it cannot, with the reason -/
  | badHandler (given : Text) (parameters : Option Text) (reason : Text)
  /-- a duration below zero -/
  | negativeDuration
  /-- a duration without a length -/
  | endlessDuration
  /-- a date or a time that does not exist -/
  | calendar (f : CalendarFault)
  /-- digits that are no integer in a base -/
  | notInteger (base : Nat) (literal : Text)
  /-- a text that is no number -/
  | notNumber (literal : Text)
  /-- a number without anything that it could be read from -/
  | emptyNumber
  /-- an integer above all floating-point numbers -/
  | tooLargeForFloat
  /-- a limit is exceeded -/
  | beyond (l : Limit)
  /-- a code above the largest code point -/
  | codeTooLarge
  /-- a code that does not fit a signed number of 32 bits -/
  | codeTooLong

namespace Fault

/-- how much is shown of a literal that is no integer -/
def longestShown : Nat := 200

/-- the fault in words -/
def message : Fault → Text
  | .missing key => key.quoted
  | .noMembers .text => "string indices must be integers, not 'str'"
  | .noMembers .list => "list indices must be integers or slices, not str"
  | .noMembers kind => "'" ++ kind.word ++ "' object is not subscriptable"
  | .notIterable kind => "'" ++ kind.word ++ "' object is not iterable"
  | .lacks kind operation =>
    "'" ++ kind.word ++ "' object has no attribute '" ++ operation ++ "'"
  | .notText kind => "expected string or bytes-like object, got '" ++ kind.word ++ "'"
  | .notPath kind => "expected str, bytes or os.PathLike object, not " ++ kind.word
  | .problem p => p.summary
  | .refused issues => Text.joined "\n" (issues.map fun i => i.cause.message)
  | .unreadableVariable group =>
    "error parsing value for field \"" ++ group ++ "\" from source \"EnvSettingsSource\""
  | .nameNotText => "keywords must be strings"
  | .undecodable f => f.message
  | .unencodable f => f.message
  | .system f => f.message
  | .nullInPath => "embedded null byte"
  | .homeless => "Could not determine home directory."
  | .unopenedTag tag position =>
    "closing tag '" ++ tag ++ "' at position " ++ Text.ofNat position
      ++ " doesn't match any open tag"
  | .nothingToClose position =>
    "closing tag '[/]' at position " ++ Text.ofNat position ++ " has nothing to close"
  | .badHandler given none reason => "error parsing " ++ given.quoted ++ "; " ++ reason
  | .badHandler given (some parameters) reason =>
    "error parsing " ++ parameters.quoted ++ " in " ++ given.quoted ++ "; " ++ reason
  | .negativeDuration => "Duration must be non-negative"
  | .endlessDuration => "cannot convert float NaN to integer"
  | .calendar f => f.message
  | .notInteger base literal =>
    "invalid literal for int() with base " ++ Text.ofNat base ++ ": " ++ literal.quoted.take longestShown
  | .notNumber literal => "could not convert string to float: " ++ literal.quoted
  | .emptyNumber => "string index out of range"
  | .tooLargeForFloat => "int too large to convert to float"
  | .beyond l => l.message
  | .codeTooLarge => "chr() arg not in range(0x110000)"
  | .codeTooLong => "Python int too large to convert to C int"

end Fault
end DatabaseTypes
