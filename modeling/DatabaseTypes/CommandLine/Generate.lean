import DatabaseTypes.CommandLine.Options
import DatabaseTypes.Run
import DatabaseTypes.Service
import DatabaseTypes.Status

/-!
# The command that generates

* `Wording.counted`        a count with a noun in the singular or the plural
* `Generate.Arguments`     what the command is told
* `Generate.arguments`     the arguments of the command, once their paths are checked
* `Generate.overrides`     the settings that the arguments give
* `Generate.perform`       the command
-/

namespace DatabaseTypes

/-- the numbers equal to one, and true -/
def Json.isOne : Json → Bool
  | .bool b => b
  | .int i => i == 1
  | .float x => x.toInt? == some 1
  | _ => false

/-- a count with its noun; a plural that is not given is formed with an s -/
def Wording.counted (count : Json) (singular : Text) (plural : Option Text) : Text :=
  count.display ++ [' '] ++ if count.isOne then singular else plural.getD (singular ++ ['s'])

end DatabaseTypes

namespace DatabaseTypes.CommandLine

/-! ## paths -/

/-- does a text mean a directory if it means anything? It does if it ends with a slash, or with a
dot for the directory itself. -/
def demandsDirectory (t : Text) : Bool :=
  Text.endsWith ['/'] t || Text.endsWith ['/', '.'] t || t == ['.']

/-- what a text means as a path, if it means anything -/
def entryAt? (s : Session) (t : Text) : Except Fault (Option Entry) :=
  let p := Path.ofText t
  if let some f := Files.pathFault? p then .error f
  else match s.files.entry s.host.here p with
    | .error _ => .ok none
    | .ok e =>
      if t.isEmpty || (demandsDirectory t && e != .directory) then .ok none else .ok (some e)

/-- a path that is checked: the misuse, if it means nothing though it must, or something of the
other kind -/
def pathMisuse? (parameter : Text) (kind : Kind) (mustExist : Bool) (t : Text) :
    Option Entry → Option Misuse
  | none => if mustExist then some (.noSuchPath parameter kind t) else none
  | some e =>
    if (e == .directory) == (kind == .directory) then none else some (.otherKind parameter kind t)

/-- a step that can find a misuse -/
abbrev Checking := ExceptT Misuse Action

/-- a path that must be of a kind if it means anything, and perhaps must mean something -/
def checkPath (parameter : Text) (kind : Kind) (mustExist : Bool) (t : Text) : Checking Path := do
  let entry ← (Action.lift (entryAt? (← get) t) : Action (Option Entry))
  match pathMisuse? parameter kind mustExist t entry with
  | some m => throw m
  | none => pure (Path.ofText t)

namespace Generate

/-! ## arguments -/

/-- the options of the command -/
inductive Choice where
  | output
  | docs
  | noDocs
  | format
  | noFormat
  | project
  | help
  deriving DecidableEq

/-- the names of the options -/
def names : List (Named Choice) := [
  { name := "--output", meaning := .output, takesValue := true },
  { name := "-o", meaning := .output, takesValue := true },
  { name := "--docs", meaning := .docs }, { name := "--no-docs", meaning := .noDocs },
  { name := "--format", meaning := .format }, { name := "--no-format", meaning := .noFormat },
  { name := "--project", meaning := .project, takesValue := true },
  { name := "--help", meaning := .help }]

/-- what the command is told -/
structure Arguments where
  model : Path
  output : Option Path := none
  docs : Option Bool := none
  format : Option Bool := none
  project : Option Path := none

/-- the choice between two options, the last of which counts -/
def choice (g : Given Choice) (yes no : Choice) : Option Bool :=
  (g.options.reverse.find? fun o => o.1 == yes || o.1 == no).map fun o => o.1 == yes

/-- the path after `--output`, which must not be a directory -/
def outputPath (g : Given Choice) : Checking (Option Path) := do
  match g.value? .output with
  | none => pure none
  | some t => pure (some (← checkPath "'--output' / '-o'" .file false t))

/-- the path after `--project`, which must be a directory -/
def projectPath (g : Given Choice) : Checking (Option Path) := do
  match g.value? .project with
  | none => pure none
  | some t => pure (some (← checkPath "'--project'" .directory true t))

/-- is the first of the two options with a path `--project`? -/
def projectFirst (g : Given Choice) : Bool :=
  (g.options.find? fun o => o.1 == .output || o.1 == .project).any fun o => o.1 == .project

/-- both paths, checked in the order in which they are given -/
def optionPaths (g : Given Choice) : Checking (Option Path × Option Path) := do
  if projectFirst g then
    let project ← projectPath g
    pure (← outputPath g, project)
  else
    let output ← outputPath g
    pure (output, ← projectPath g)

/-- the arguments of the command: first the options, then the model, and nothing else -/
def arguments (g : Given Choice) : Checking Arguments := do
  let (output, project) ← optionPaths g
  match g.arguments with
  | [] => throw (.noArgument "MODEL")
  | t :: more =>
    let model ← checkPath "'MODEL'" .file true t
    if more.isEmpty then
      pure { model, output, docs := choice g .docs .noDocs, format := choice g .format .noFormat
             project }
    else throw (.moreArguments more)

/-! ## the command -/

/-- the settings that the arguments give -/
def overrides (a : Arguments) : List (Text × Json) :=
  let output : List (Text × Json) := (a.output.map fun p => (("output" : Text), Json.text p.text)).toList
  Service.groupOf "generator" (output ++ Service.flagMember "documentation" a.docs)
    ++ Service.groupOf "formatting" (Service.flagMember "enabled" a.format)

/-- the settings of the log; a verbose program logs everything -/
def logSettings (s : Settings) (verbose : Bool) : LogSettings :=
  if verbose then { s.logging with level := .debug } else s.logging

/-- what a run has done, in words -/
def summary (r : Run.Summary) (elapsed : Duration) : Except Fault Text := do
  let counted (n : Nat) (noun : Text) : Text := Wording.counted (.int n) noun none
  let counts := [counted r.tables "table", counted r.enums "enum",
    counted r.composites "composite type", ← elapsed.text?]
  pure ("Wrote " ++ r.destination.text ++ " (" ++ Text.joined ", " counts ++ [')'])

/-- the run that the arguments ask for -/
def generate (a : Arguments) (verbose : Bool) : Action Run.Summary := do
  let root := a.project.getD (← Action.host).directory
  let settings ← Settings.load root (overrides a)
  Action.openLog (logSettings settings verbose)
  let datamodel ← Run.loadDatamodel a.model
  Run.generate datamodel settings (some root)

/-- the command: a problem is told and makes it fail; the result is the status at its end -/
def perform (a : Arguments) (verbose : Bool) : Action Nat := do
  match ← (generate a verbose).outcome with
  | .error (.problem p) =>
    Action.status p.message "error"
    pure 1
  | .error f => throw f
  | .ok r =>
    Action.status (← Action.lift (summary r (← Action.host).elapsed)) "success"
    pure 0

end Generate
end DatabaseTypes.CommandLine
