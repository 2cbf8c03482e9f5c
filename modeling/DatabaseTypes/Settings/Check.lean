import DatabaseTypes.Decimal.Reading
import DatabaseTypes.Path
import DatabaseTypes.Settings.Basic
import DatabaseTypes.Settings.Issue
import DatabaseTypes.Yaml.Display

/-!
# Checking settings

Settings come as values of any sort.  Checking them gives settings, or every issue there is, in
the order in which the settings are declared.

* `Verdict`            settings, issues, or a fault that ends the check
* `Check.bool`, `Check.text`, `Check.number`, `Check.word`, `Check.list`   single values
* `Check.member`       a value in a group of settings, with what counts if it is absent
* `LogOutput.check`, `LogSettings.check`, `GeneratorSettings.check`, `FormatterSettings.check`,
  `Settings.check`     the groups
-/

namespace DatabaseTypes

/-! ## verdicts -/

/-- what checking a value gives -/
inductive Verdict (α : Type) where
  | good (setting : α)
  | bad (issues : List Issue)
  /-- checking itself fails -/
  | broken (fault : Fault)

namespace Verdict

variable {α β : Type}

/-- one issue with a value -/
def issue (cause : Issue.Cause) (v : Yaml.Value) : Verdict α := .bad [⟨[], cause, v.displayed?⟩]

/-- the same verdict about something made of the setting -/
def map (f : α → β) : Verdict α → Verdict β
  | .good a => .good (f a)
  | .bad issues => .bad issues
  | .broken fault => .broken fault

/-- a further check of a good setting -/
def andThen (v : Verdict α) (f : α → Verdict β) : Verdict β :=
  match v with
  | .good a => f a
  | .bad issues => .bad issues
  | .broken fault => .broken fault

/-- both verdicts in one, the issues of the first one in front -/
def both : Verdict α → Verdict β → Verdict (α × β)
  | .broken fault, _ => .broken fault
  | _, .broken fault => .broken fault
  | .good a, .good b => .good (a, b)
  | .good _, .bad issues => .bad issues
  | .bad issues, .good _ => .bad issues
  | .bad issues, .bad others => .bad (issues ++ others)

/-- the verdict with `part` in front of the place of every issue -/
def under (part : Text) : Verdict α → Verdict α
  | .bad issues => .bad (issues.map (·.under part))
  | v => v

/-- all verdicts in one -/
def all : List (Verdict α) → Verdict (List α)
  | [] => .good []
  | v :: vs => (v.both (all vs)).map fun p => p.1 :: p.2

/-- the setting, or why there is none -/
def outcome : Verdict α → Except Fault α
  | .good a => .ok a
  | .bad issues => .error (.refused issues)
  | .broken fault => .error fault

end Verdict

namespace Check

open Yaml

variable {α : Type}

/-! ## single values -/

/-- the words for true -/
def yes : List Text := ["1", "on", "t", "true", "y", "yes"]

/-- the words for false -/
def no : List Text := ["0", "off", "f", "false", "n", "no"]

/-- a truth value of a word in any case -/
def boolOfText (v : Value) (t : Text) : Verdict Bool :=
  let word := Text.lowerLetters t
  if t.any isHalf then .issue .notUnicode v
  else if yes.contains word then .good true
  else if no.contains word then .good false
  else .issue .unclearBool v

/-- the largest integer of 64 bits, not counting its sign, and one more -/
def wordLimit : Int := 9223372036854775808

/-- a truth value of an integer that fits into 64 bits: it must be one or zero -/
def boolOfInt (v : Value) (i : Int) : Verdict Bool :=
  if i = 0 then .good false
  else if i = 1 then .good true
  else .issue .unclearBool v

/-- a truth value of a number, which must be an integer of 64 bits -/
def boolOfFloat (v : Value) (x : Binary64) : Verdict Bool :=
  match x.toInt? with
  | some i => if -wordLimit < i ∧ i < wordLimit then boolOfInt v i else .issue .notBool v
  | none => .issue .notBool v

/-- the text of bytes, as far as they encode one -/
def textOfBytes? (bs : Bytes) : Option Text := (Text.ofBytes bs).toOption

/-- a truth value -/
def bool (v : Value) : Verdict Bool :=
  match v with
  | .bool b => .good b
  | .int i => if -wordLimit ≤ i ∧ i < wordLimit then boolOfInt v i else .issue .notBool v
  | .float x => boolOfFloat v x
  | .text t => boolOfText v t
  | .bytes bs => match textOfBytes? bs with
    | some t => boolOfText v t
    | none => .issue .unclearBool v
  | _ => .issue .notBool v

/-- a text -/
def text (v : Value) : Verdict Text :=
  match v with
  | .text t => .good t
  | .bytes bs => match textOfBytes? bs with
    | some t => .good t
    | none => .issue .notUnicode v
  | _ => .issue .notText v

/-- a number of a text -/
def numberOfText (v : Value) (t : Text) : Verdict Binary64 :=
  if t.any isHalf then .issue .notUnicode v
  else match Binary64.ofSpacedText? t with
    | some x => .good x
    | none => .issue .unclearNumber v

/-- a number; an integer must not be too large for one -/
def number (v : Value) : Verdict Binary64 :=
  match v with
  | .float x => .good x
  | .bool b => .good (.ofInt (if b then 1 else 0))
  | .int i => match Binary64.ofInt i with
    | .infinite _ => .issue .notNumber v
    | x => .good x
  | .text t => numberOfText v t
  | .bytes bs => match textOfBytes? bs with
    | some t => numberOfText v t
    | none => .issue .unclearNumber v
  | _ => .issue .notNumber v

/-- one of the words for something -/
def word (name : α → Text) (all : List α) (v : Value) : Verdict α :=
  let t? := match v with
    | .text t => some t
    | _ => none
  match t?.bind fun t => all.find? (name · == t) with
  | some a => .good a
  | none => .issue (if t?.any (·.any isHalf) then .notUnicode else .notAmong (all.map name)) v

/-- null, or something else -/
def optional (check : Value → Verdict α) (v : Value) : Verdict (Option α) :=
  match v with
  | .null => .good none
  | v => (check v).map some

/-- the items of a value that counts as a list -/
def items? (v : Value) : Option (List Value) :=
  match v.opened with
  | .list items => some items
  | .set items => some items
  | .pair first second => some [first, second]
  | _ => none

/-- a list -/
def list (check : Value → Verdict α) (v : Value) : Verdict (List α) :=
  match items? v with
  | some items =>
    Verdict.all (items.mapIdx fun i item => (check item).under (Text.ofNat i))
  | none => .issue .notList v

/-- a setting that must keep a rule -/
def keeping (v : Value) (rule : α → Option Text) (verdict : Verdict α) : Verdict α :=
  verdict.andThen fun a => match rule a with
    | none => .good a
    | some broken => .issue (.broken broken) v

/-! ## groups -/

/-- a value of a group of settings; `absent` is the setting if there is no value -/
def member (key : Text) (absent : α) (check : Value → Verdict α)
    (entries : List (Value × Value)) : Verdict α :=
  match Entries.find? (.text key) entries with
  | none => .good absent
  | some v => (check v).under key

/-- a group of settings, which must be a mapping -/
def group (name : Text) (check : List (Value × Value) → Verdict α) (v : Value) : Verdict α :=
  match v.opened with
  | .mapping entries => check entries
  | _ => .issue (.notSection name) v

end Check

/-! ## the settings -/

/-- a destination: one of the two standard ones, or an absolute path -/
def LogOutput.checkDestination (homes : Path.Homes) (v : Yaml.Value) : Verdict Text :=
  (Check.text v).andThen fun t =>
    if t = "stderr" ∨ t = "stdout" then .good t
    else match (Path.ofText t).expanded homes with
      | .error fault => .broken fault
      | .ok p =>
        if p.isAbsolute then .good p.text
        else .issue (.broken ("File destination must be absolute path: " ++ t.halvesReplaced)) v

/-- an output of the log -/
def LogOutput.check (homes : Path.Homes) : Yaml.Value → Verdict LogOutput :=
  Check.group "LogOutputConfig" fun es =>
    ((Check.member "format" .console (Check.word LogFormat.name [.json, .console]) es).both
      ((Check.member "destination" ("stderr" : Text) (LogOutput.checkDestination homes) es).both
        (Check.member "level" none (Check.optional (Check.word Level.name Level.all)) es))).map
      fun (format, destination, level) => { format, destination, level }

/-- the settings of the log -/
def LogSettings.check (homes : Path.Homes) : Yaml.Value → Verdict LogSettings :=
  Check.group "LoggingConfig" fun es =>
    ((Check.member "level" .warning (Check.word Level.name Level.all) es).both
      (Check.member "outputs" [{}] (Check.list (LogOutput.check homes)) es)).map
      fun (level, outputs) => { level, outputs }

/-- the settings of the generator -/
def GeneratorSettings.check : Yaml.Value → Verdict GeneratorSettings :=
  Check.group "GeneratorConfig" fun es =>
    ((Check.member "documentation" true Check.bool es).both
      (Check.member "output" none (Check.optional Check.text) es)).map
      fun (documentation, output) => { documentation, output }

/-- a formatter has a name -/
def FormatterSettings.commandRule (command : List Text) : Option Text :=
  if command.isEmpty then some "Formatter command must not be empty" else none

/-- may a formatter be given this time? -/
def FormatterSettings.isTimeout (x : Binary64) : Bool :=
  !(x.atMost (.zero false)) && x.atMost longestTimeout

/-- a formatter is given some time, and not too much -/
def FormatterSettings.timeoutRule (x : Binary64) : Option Text :=
  if isTimeout x then none
  else some ("Timeout must be in (0, " ++ longestTimeout.text ++ "], got " ++ x.text)

/-- the settings of the formatting pass -/
def FormatterSettings.check : Yaml.Value → Verdict FormatterSettings :=
  Check.group "FormattingConfig" fun es =>
    ((Check.member "enabled" false Check.bool es).both
      ((Check.member "command" standardFormatter
        (fun v => Check.keeping v commandRule (Check.list Check.text v)) es).both
        (Check.member "timeout_sec" standardTimeout
          (fun v => Check.keeping v timeoutRule (Check.number v)) es))).map
      fun (enabled, command, timeout) => { enabled, command, timeout }

/-- all settings; names that are not known are overlooked -/
def Settings.check (homes : Path.Homes) : Yaml.Value → Verdict Settings :=
  Check.group "SupatypesConfig" fun es =>
    ((Check.member "logging" {} (LogSettings.check homes) es).both
      ((Check.member "generator" {} GeneratorSettings.check es).both
        (Check.member "formatting" {} FormatterSettings.check es))).map
      fun (logging, generator, formatting) => { logging, generator, formatting }

/-! ## settings as values -/

/-- the values that give the settings again -/
def Settings.toJson (s : Settings) : Json :=
  let level (l : Option Level) : Json := (l.map fun l => Json.text l.name).getD .null
  let output (o : LogOutput) : Json := .object [("format", .text o.format.name),
    ("destination", .text o.destination), ("level", level o.level)]
  let logging : Json := .object [("level", level (some s.logging.level)),
    ("outputs", .list (s.logging.outputs.map output))]
  let generator : Json := .object [("documentation", .bool s.generator.documentation),
    ("output", (s.generator.output.map Json.text).getD .null)]
  let formatting : Json := .object [("enabled", .bool s.formatting.enabled),
    ("command", .list (s.formatting.command.map .text)), ("timeout_sec", .float s.formatting.timeout)]
  .object [("logging", logging), ("generator", generator), ("formatting", formatting)]

end DatabaseTypes
