import DatabaseTypes.Calendar
import DatabaseTypes.Files
import DatabaseTypes.Log.Message

/-!
# Sessions

What the program finds on a machine, and what it leaves there.  A step of the program is a function
on sessions, which may end with a fault; what it did until then stays done.

* `ProgramResult`   how the run of another program ends
* `Host`            what does not change: environment, home directories, clock, other programs
* `Route`           an output for log messages that is open
* `Session`         host, files, run identifier, log, and what was written to the terminal
* `Action`          a step of the program
* `Action.log`      write a log message
* `Action.openLog`  open the outputs of the log settings, in place of those that are open
-/

namespace DatabaseTypes

/-! ## the machine -/

/-- how the run of another program ends -/
inductive ProgramResult where
  /-- by itself, with a status and what it wrote -/
  | finished (status : Nat) (output errors : Bytes)
  /-- by a signal, with what it wrote -/
  | killed (signal : Nat) (output errors : Bytes)
  /-- by being stopped after its time -/
  | timedOut
  /-- before it began -/
  | notStarted (f : SystemFault)

/-- what a session finds and does not change -/
structure Host where
  environment : List (Text × Text) := []
  here : Location := []
  homes : Path.Homes := { own := "/" }
  globalSettings : Path := Path.ofText "/.config/supatypes/config.yaml"
  clock : Text := "1970-01-01 00:00:00"
  elapsed : Duration := .whole 0
  runName : Nat → Text := fun n => Text.zeroPadded 12 (Text.ofNat n)
  run : Files → List Text → Bytes → Binary64 → ProgramResult × Files := fun files command _ _ =>
    (.notStarted ⟨.notFound, command.headD []⟩, files)

/-- the directory that relative paths begin at -/
def Host.directory (h : Host) : Path := ⟨1, h.here⟩

/-! ## the log -/

/-- where the lines of a log output go -/
inductive Sink where
  | errors
  | output
  | file (l : Location)
  /-- nowhere -/
  | nothing
  deriving DecidableEq

/-- an open log output -/
structure Route where
  sink : Sink
  format : LogFormat := .console
  level : Level
  deriving DecidableEq

/-- what is open for log messages -/
structure Log where
  level : Level := .warning
  routes : List Route := []

/-! ## the session -/

/-- a session -/
structure Session where
  host : Host := {}
  files : Files := {}
  runId : Option Text := none
  runs : Nat := 0
  log : Log := {}
  output : Text := []
  errors : Text := []

/-- a step of the program -/
abbrev Action := ExceptT Fault (StateM Session)

namespace Session

/-- a text written among the messages, where halves of surrogate pairs are spelt -/
def complained (s : Session) (t : Text) : Session := { s with errors := s.errors ++ t.halvesSpelt }

/-- a line written to a sink; only the messages take one with halves of surrogate pairs -/
def emit (s : Session) (line : Text) (sink : Sink) : Session :=
  match sink, (line ++ ['\n']).encoded with
  | .errors, _ => s.complained (line ++ ['\n'])
  | .output, .ok _ => { s with output := s.output ++ line ++ ['\n'] }
  | .file l, .ok bytes => { s with files := s.files.extend l bytes }
  | .output, .error _ | .file _, .error _ | .nothing, _ => s

/-- the session after its files are changed by another program; an open log output stays with its file,
wherever that is -/
def withFiles (s : Session) (files : Files) : Session :=
  let followed (r : Route) : Route := match r.sink with
    | .file l => { r with sink := ((s.files.whereabouts files l).map Sink.file).getD .nothing }
    | _ => r
  { s with files, log.routes := s.log.routes.map followed }

/-- a message given to the routes that its level passes; without routes a serious message is
displayed as it is -/
def record (s : Session) (m : Message) : Session :=
  if !s.log.level.passes m.level then s
  else
    let ms := m.members s.host.clock s.runId
    if s.log.routes.isEmpty then
      if Level.warning.passes m.level then s.emit (Json.object ms).display .errors else s
    else s.log.routes.foldl (fun s r =>
      match r.format.lines? ms with
      | some line => if r.level.passes m.level then s.emit line r.sink else s
      | none => s) s

end Session

/-! ## steps -/

namespace Action

/-- the session as it is -/
def session : Action Session := get

/-- what the session finds on the machine -/
def host : Action Host := do pure (← get).host

/-- end with a fault -/
def fail {α : Type} (f : Fault) : Action α := throw f

/-- end with a problem that is reported as such -/
def report {α : Type} (p : Problem) : Action α := throw (.problem p)

/-- the value of a computation, or its fault -/
def lift {α : Type} : Except Fault α → Action α
  | .ok a => pure a
  | .error f => throw f

/-- the same with a problem in place of a fault -/
def liftProblem {α : Type} : Except Problem α → Action α
  | .ok a => pure a
  | .error p => throw (.problem p)

/-- a step whose outcome is its result, so that it cannot end with a fault -/
def outcome {α : Type} (a : Action α) : Action (Except Fault α) := fun s =>
  let (r, s) := a.run s
  (.ok r, s)

/-- write a log message -/
def log (level : Level) (event : Text) (fields : List (Text × Json)) (logger : Option Text := none) :
    Action Unit :=
  modify fun s => s.record { level, event, fields, logger }

end Action

/-! ## setting up the log -/

/-- one output to the terminal, in either format -/
def LogSettings.simple (level : Level) (format : LogFormat := .console) : LogSettings :=
  { level, outputs := [{ format }] }

namespace Action

/-- make a directory and those above it -/
def makeDirectories (p : Path) : Action Unit := fun s =>
  let (files, made) := s.files.makeDirectories s.host.here p
  (made, { s with files })

/-- change the files, unless that is refused -/
def changeFiles (change : Files → Except Fault Files) : Action Unit := do
  let s ← get
  let files ← lift (change s.files)
  set { s with files }

/-- where the messages of an output go: a file and the directories above it are made if they are not
there -/
def openSink (destination : Text) : Action Sink := do
  if destination = "stderr" then pure .errors
  else if destination = "stdout" then pure .output
  else
    let path := Path.ofText destination
    makeDirectories path.parent
    let s ← get
    let place := path.simplified
    changeFiles fun files => files.append s.host.here place []
    match s.files.locate s.host.here place with
    | .ok l => pure (.file l)
    | .error _ => pure .nothing

/-- open an output; without a level of its own it has that of the log -/
def openRoute (level : Level) (o : LogOutput) : Action Unit := do
  let sink ← openSink o.destination
  let route : Route := { sink, format := o.format, level := o.level.getD level }
  modify fun s => { s with log.routes := s.log.routes ++ [route] }

/-- open the outputs of the log settings one after the other, in place of those that are open -/
def openLog (l : LogSettings) : Action Unit := do
  modify fun s => { s with log := { level := l.level } }
  l.outputs.forM (openRoute l.level)

end Action

end DatabaseTypes
