import DatabaseTypes.Session
import DatabaseTypes.Settings.Check
import DatabaseTypes.Settings.Environment
import DatabaseTypes.Yaml.Document

/-!
# Loading settings

Settings are given by the caller, by environment variables, and by the settings files of the project
and of the user; what is given first in this order counts, entry by entry.

* `Settings.ofMerged`     the settings of everything that is given, or the first issue with it
* `Settings.fileEntries`  what a settings file says
* `Settings.load`         the settings of a project
-/

namespace DatabaseTypes

open Yaml

/-- the fault of an issue: a problem that is reported with the value, or a value that is too long to
be reported -/
def Issue.fault (i : Issue) : Fault :=
  match i.shown with
  | some t => .problem (.settingInvalid (Text.joined ['.'] i.place) t i.cause.message)
  | none => .beyond .digitsWritten

namespace Settings

/-! ## everything together -/

/-- the names of settings that are not known -/
def unknownIssues (entries : List (Value × Value)) : List Issue :=
  entries.filterMap fun (k, v) => match k with
    | .text name =>
      if groups.any (·.name == name) then none else some ⟨[name], .unknown, v.displayed?⟩
    | _ => none

/-- the settings of entries; names that are not known are an issue -/
def checkAll (homes : Path.Homes) (entries : List (Value × Value)) : Verdict Settings :=
  ((Settings.check homes (.mapping entries)).both
    (match unknownIssues entries with
      | [] => .good ()
      | issues => .bad issues)).map Prod.fst

/-- the first issue as it is reported, any other fault as it is -/
def reported : Fault → Fault
  | .refused (i :: _) => i.fault
  | f => f

/-- settings read from their own values -/
def reread (homes : Path.Homes) (s : Settings) : Except Fault Settings :=
  (Settings.check homes (.ofJson s.toJson)).outcome

/-- the settings of everything that is given; the keys must be names -/
def ofMerged (homes : Path.Homes) (entries : List (Value × Value)) : Except Fault Settings := do
  if entries.any fun e => !e.1.isText then throw .nameNotText
  let s ← (checkAll homes entries).outcome.mapError reported
  reread homes s

/-- what is given by the caller, by variables and by files, the earlier overriding the later -/
def merged (given environment files : List (Value × Value)) :
    Except Limit (List (Value × Value)) := do
  Entries.overriding (← Entries.overriding given environment) files

/-! ## files -/

/-- the name of the settings file of a project -/
def fileName : Text := "supatypes.yaml"

/-- the entries of a settings file with these bytes; what counts as false counts as nothing -/
def entriesOf (path : Path) (bytes : Bytes) : Except Fault (List (Value × Value)) :=
  match Yaml.ofBytes bytes with
  | .error (.fault f) => .error f
  | .error (.mistake line m) =>
    .error (.problem (.settingsUnreadable path.text (Yaml.mistakeText line m)))
  | .ok v => match v.opened with
    | .mapping es => .ok es
    | other =>
      if other.isTruthy then
        .error (.problem (.settingsUnreadable path.text "top level must be a mapping"))
      else .ok []

/-- what a settings file says; one that does not exist says nothing -/
def fileEntries (path : Path) : Action (List (Value × Value)) := do
  let s ← get
  let here := s.host.here
  if ← Action.lift (s.files.exists? here path) then
    let bytes ← Action.lift (s.files.read here path)
    Action.lift (entriesOf path bytes)
  else pure []

/-! ## loading -/

/-- the settings of a project; `root` is its directory, and `given` is given by the caller -/
def load (root : Path) (given : List (Text × Json)) : Action Settings := do
  let host ← Action.host
  let users ← fileEntries host.globalSettings
  let projects ← fileEntries ((Path.ofText fileName).under root)
  let files ← Action.lift ((Entries.overriding projects users).mapError .beyond)
  let environment ← Action.lift (fromVariables host.environment)
  let all ← Action.lift ((merged (Value.ofJsonMembers given) environment files).mapError .beyond)
  Action.lift (ofMerged host.homes all)

end Settings
end DatabaseTypes
