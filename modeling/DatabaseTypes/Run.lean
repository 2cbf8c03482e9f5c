import DatabaseTypes.Database
import DatabaseTypes.Formatter
import DatabaseTypes.Json.Reader
import DatabaseTypes.Session
import DatabaseTypes.Schema.Notice

/-!
# Runs

A run reads a model, makes the types of a database, formats them and writes them to a file.  Where
to is settled before anything else, and a run has an identifier only while it lasts.

* `Document.datamodel`   the model of a document, which is a model itself or holds one as its member `datamodel`
* `Run.destination`    where the output goes
* `Run.write`          write a text to a file, with the directories above it
* `Run.loadDatamodel`  the model of a file
* `Run.generate`       a run
* `Run.Summary`        what a run has done
-/

namespace DatabaseTypes.Document

/-- the lists of a model, one of which must be there -/
def collections : List Text := ["models", "enums", "types"]

/-- does a model have one of its lists? -/
def hasCollection (model : Json) : Bool := collections.any fun key => (model.get? key).isSome

/-- the model of a document -/
def datamodel (document : Json) : Except Problem Json :=
  if !document.isObject then .error (.modelInvalid "expected a JSON object")
  else
    let model := (document.get? "datamodel").getD document
    if !model.isObject then .error (.modelInvalid "'datamodel' must be an object")
    else if hasCollection model then .ok model
    else .error (.modelInvalid "no 'models', 'enums' or 'types' found")

end DatabaseTypes.Document

namespace DatabaseTypes

namespace Action

/-- a step after which another one is taken, however it ends -/
def thenAlways {α : Type} (a : Action α) (after : Session → Session) : Action α := fun s =>
  let (r, s) := a.run s
  (r, after s)

/-- a step whose refusals by the system are reported as a problem -/
def reporting {α : Type} (a : Action α) (problem : SystemFault → Problem) : Action α := fun s =>
  match a.run s with
  | (.error (.system f), s) => (.error (.problem (problem f)), s)
  | (r, s) => (r, s)

/-- set the identifier of the run, to a new one unless one is given -/
def setRunId (given : Option Text := none) : Action Text := do
  let s ← get
  match given.filter fun id => !id.isEmpty with
  | some id =>
    set { s with runId := some id }
    pure id
  | none =>
    let id := s.host.runName s.runs
    set { s with runId := some id, runs := s.runs + 1 }
    pure id

end Action

namespace Run

/-! ## output -/

/-- the setting that says where the output goes -/
def outputSetting : Text := "generator.output"

/-- where the output goes: an absolute path as it is, any other below the base directory -/
def resolved (host : Host) (output : Option Text) (base : Option Path) : Except Fault Path :=
  match output.filter fun t => !t.isEmpty with
  | none => .error (.problem (.settingMissing outputSetting))
  | some t => do
    let p ← (Path.ofText t).expanded host.homes
    pure (p.under (base.getD host.directory))

/-- where the output goes -/
def destination (output : Option Text) (base : Option Path) : Action Path := do
  Action.lift (resolved (← Action.host) output base)

/-- write a text to a file; the directories above it are made if they are not there.  A text with halves
of surrogate pairs leaves the file empty. -/
def write (text : Text) (path : Path) : Action Path := do
  let here := (← Action.host).here
  let writing : Action Unit := do
    Action.makeDirectories path.parent
    let bytes := text.encoded
    Action.changeFiles fun files => files.write here path (bytes.toOption.getD [])
    let _ ← Action.lift (bytes.mapError .unencodable)
  writing.reporting fun f => .writeFailed path.text f.message
  Action.log .info "output_written"
    [("path", .text path.text), ("bytes", .int text.toBytes.length)]
  pure path

/-! ## models -/

/-- the document of a text -/
def document (path : Path) (bytes : Bytes) : Except Fault Json :=
  let unreadable (reason : Text) : Fault := .problem (.modelUnreadable path.text reason)
  match Text.ofBytes bytes with
  | .error f => .error (unreadable f.message)
  | .ok t => (Json.ofText t.newlinesUnified).mapError fun
    | .mistake m => unreadable m.message
    | .beyond l => .beyond l

/-- the model of a file -/
def loadDatamodel (path : Path) : Action Json := do
  let s ← get
  let here := s.host.here
  if ← Action.lift (s.files.exists? here path) then
    let reading : Action Bytes := Action.lift (s.files.read here path)
    let bytes ← reading.reporting fun f => .modelUnreadable path.text f.message
    Action.liftProblem (Document.datamodel (← Action.lift (document path bytes)))
  else Action.report (.modelNotFound path.text)

/-- the schema of a model; what is noticed about it is logged -/
def readSchema (datamodel : Json) : Action Schema := do
  (Notice.ofDatamodel datamodel).forM fun n =>
    Action.log .debug "field_kind_unsupported" [("field", n.field), ("kind", n.kind)]
  let s ← Action.lift (Schema.ofJson datamodel)
  Action.log .debug "datamodel_normalized"
    [("schema", .text s.name), ("tables", .int s.tables.length), ("enums", .int s.enums.length),
     ("composite_types", .int s.composites.length)]
  pure s

/-! ## the run -/

/-- what a run has done: where the output went, and how many entries it has -/
structure Summary where
  destination : Path
  tables : Nat
  enums : Nat
  composites : Nat
  deriving DecidableEq

/-- the output for a schema before the formatting pass -/
def assemble (settings : Settings) (s : Schema) : Action Text := do
  let e : Emission := { documentation := settings.generator.documentation }
  let text ← Action.lift (e.text [s])
  Action.log .debug "output_assembled" [("schemas", .int 1), ("chars", .int text.length)]
  pure text

/-- a run once it is settled where the output goes -/
def generateTo (path : Path) (datamodel : Json) (settings : Settings) : Action Summary := do
  let s ← readSchema datamodel
  let text ← Formatter.formatted settings.formatting (← assemble settings s)
  let _ ← write text path
  let summary : Summary :=
    { destination := path, tables := s.tables.length, enums := s.orderedEnums.length
      composites := s.orderedComposites.length }
  Action.log .info "generation_complete"
    [("destination", .text path.text), ("tables", .int summary.tables),
     ("enums", .int summary.enums), ("composite_types", .int summary.composites)]
  pure summary

/-- a run: the types of a database for a model, at the place that the settings give -/
def generate (datamodel : Json) (settings : Settings) (base : Option Path) : Action Summary := do
  let path ← destination settings.generator.output base
  let _ ← Action.setRunId
  (generateTo path datamodel settings).thenAlways fun s => { s with runId := none }

end Run
end DatabaseTypes
