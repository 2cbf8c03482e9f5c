import DatabaseTypes.Json.Writer
import DatabaseTypes.Settings.Basic

/-!
# Log messages

A message is an event with fields.  It is written for people, as a line that begins with the
time and below it what is said about a failure, or for programs, as a JSON object.

* `Message`              an event with its level, the logger and the fields
* `Message.members`      the message as members of an object
* `consoleLines?`        the lines for people
* `jsonLine`             the line for programs
* `LogFormat.lines?`     the lines of either format
-/

namespace DatabaseTypes

/-- a log message -/
structure Message where
  level : Level
  event : Text
  fields : List (Text × Json) := []
  logger : Option Text := none

/-- the message as members of an object: the logger, the fields, and then event, level, time and,
during a run, its identifier; a name that is there already keeps its place -/
def Message.members (m : Message) (clock : Text) (runId : Option Text) : List (Text × Json) :=
  let given (key : Text) (value : Option Text) : List (Text × Json) :=
    (value.map fun t => [(key, .text t)]).getD []
  let facts : List (Text × Json) :=
    [("event", .text m.event), ("level", .text m.level.word), ("timestamp", .text clock)]
  Members.ofPairs (given "logger" m.logger ++ m.fields ++ facts ++ given "run_id" runId)

/-! ## for people -/

/-- the characters that make a text need quotes -/
def needsQuotes (c : Char) : Bool := [' ', '\t', '=', '\r', '\n', '"', '\''].contains c

/-- the value of a field -/
def fieldValue : Json → Text
  | .text t => if t.any needsQuotes then t.quoted else t
  | v => v.quotedDisplay

/-- a field of the line -/
def fieldText (m : Text × Json) : Text := m.1 ++ ['='] ++ fieldValue m.2

/-- a text in brackets -/
def bracketed (t : Text) : Text := '[' :: t ++ [']']

/-- the members that have a place of their own at the front of the line, and how they stand there -/
def frontParts : List (Text × (Json → Text)) := [
  ([], fun v => fieldText ([], v)),
  ("timestamp", Json.display),
  ("level", fun v => bracketed v.display),
  ("event", Json.display),
  ("logger", fun v => bracketed v.display),
  ("logger_name", fun v => bracketed v.display)]

/-- the members about a failure, which stand below the line if anywhere -/
def failureKeys : List Text := ["stack", "exception", "exc_info"]

/-- the members in the order of their names, by insertion -/
def byKey (ms : List (Text × Json)) : List (Text × Json) :=
  ms.foldr (fun m sorted =>
    sorted.takeWhile (fun n => !m.1.atMost n.1) ++ m :: sorted.dropWhile (fun n => !m.1.atMost n.1)) []

/-- the first line: time, level, event, logger, and the other members by name; a part that is empty
leaves no gap -/
def headLine (ms : List (Text × Json)) : Text :=
  let front := frontParts.filterMap fun p => (ms.lookup p.1).map p.2
  let apart := failureKeys ++ frontParts.map (·.1)
  let others := (byKey (ms.filter fun m => !apart.contains m.1)).map fieldText
  let line := Text.joined [' '] ((front ++ others).filter fun part => !part.isEmpty)
  (line.reverse.dropWhile (· == ' ')).reverse

/-- a member on a line of its own, if there is anything; what is no text cannot be written -/
def lineBelow? (ms : List (Text × Json)) (key : Text) : Option Text :=
  match ms.lookup key with
  | none | some .null => some []
  | some (.text t) => some ('\n' :: t)
  | some _ => none

/-- what stands below the first line: where the program was, and its failure, with a rule between
them; nothing can be written if one of them is no text -/
def linesBelow? (ms : List (Text × Json)) : Option Text := do
  let stack ← lineBelow? ms "stack"
  let failure ← lineBelow? ms "exception"
  let failed := !failure.isEmpty || ((ms.lookup ("exc_info" : Text)).bind Json.truthy?).isSome
  let rule : Text := "\n\n" ++ List.replicate 79 '=' ++ "\n"
  pure (stack ++ (if !stack.isEmpty && failed then rule else []) ++ failure)

/-- the lines for people, if they can be written -/
def consoleLines? (ms : List (Text × Json)) : Option Text := (linesBelow? ms).map (headLine ms ++ ·)

/-! ## for programs -/

/-- the line for programs -/
def jsonLine (ms : List (Text × Json)) : Text := (Json.object ms).written .wire

/-! ## outputs -/

/-- the names that no output shows -/
def hiddenKeys : List Text := ["_record", "_from_structlog"]

/-- the lines of a message in a format, if they can be written -/
def LogFormat.lines? (f : LogFormat) (ms : List (Text × Json)) : Option Text :=
  let shown := ms.filter fun m => !hiddenKeys.contains m.1
  match f with
  | .json => some (jsonLine shown)
  | .console => consoleLines? shown

end DatabaseTypes
