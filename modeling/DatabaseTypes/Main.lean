import DatabaseTypes.Calendar
import DatabaseTypes.CommandLine.Program
import DatabaseTypes.Filter.Shell
import Std.Time.DateTime.Timestamp

/-!
# The program on a machine

A step begins with the entries at the locations that the arguments or a request name, and with those
in the directory where the program works.  It is tried, and what it changes elsewhere is looked at,
until it changes nothing that has not been looked at; then what it has changed is written to the
machine.

* `Machine.session`   the session of this machine
* `Machine.perform`   a step
* `Machine.answer`    the requests in the standard input, each answered before the next is read
* `main`              the program
-/

namespace DatabaseTypes.Machine

/-! ## files -/

/-- the name of a location -/
def nameOf (l : Location) : String := String.ofList ('/' :: Text.joined ['/'] l)

/-- the locations on the way to a location, and itself -/
def wayTo (l : Location) : List Location := (List.range (l.length + 1)).map fun n => l.take n

/-- the entry at a location below a directory -/
def entry? (l : Location) : IO (Option Entry) := do
  match ← (IO.FS.readBinFile (nameOf l)).toBaseIO with
  | .ok bytes => pure (some (.file bytes.toList))
  | .error (.inappropriateType ..) => pure (some .directory)
  | .error _ => pure none

/-- the entries at locations and on the way to them -/
def entries (ls : List Location) : IO Files :=
  (ls.flatMap wayTo).eraseDups.foldlM (fun files l => do
    if l.isEmpty || files.find? l.dropLast != some .directory then pure files
    else match ← entry? l with
      | some e => pure (files.set l e)
      | none => pure files) {}

/-- how long a file may be to be looked at before it is named, in bytes -/
def greatestUnnamed : Nat := 1000000

/-- the locations in the directory where the program works, but for those of long files -/
def nearby : IO (List Location) := do
  let here ← IO.currentDir
  match ← here.readDir.toBaseIO with
  | .error _ => pure []
  | .ok es =>
    let short ← es.filterM fun e => do
      match ← e.path.metadata.toBaseIO with
      | .ok m => pure (decide (m.byteSize.toNat ≤ greatestUnnamed))
      | .error _ => pure false
    let base := (Path.ofText here.toString.toList).parts
    pure (short.toList.map fun e => base ++ [e.fileName.toList])

/-- write what is new or changed in the entries, and remove what is no longer there, the deepest
first -/
def settle (before after : Files) : IO Unit := do
  let gone := before.entries.filter fun (l, e) => match after.find? l with
    | some f => (e == .directory) != (f == .directory)
    | none => true
  (gone.mergeSort fun e f => f.1.length ≤ e.1.length).forM fun (l, e) => match e with
    | .directory => IO.FS.removeDir (nameOf l)
    | .file _ => IO.FS.removeFile (nameOf l)
  after.entries.forM fun (l, e) => do
    if before.find? l != some e then
      match e with
      | .directory => IO.FS.createDir (nameOf l)
      | .file bytes => IO.FS.writeBinFile (nameOf l) ⟨bytes.toArray⟩

/-! ## names -/

/-- the paths that an argument may name: itself, or what follows the name of an option -/
def namedBy (argument : Text) : List Path :=
  [argument, argument.drop 2, (argument.dropWhile (· != '=')).drop 1].map Path.ofText

/-- the directory that a request names -/
def namedIn (request : Text) : List Path :=
  match Json.ofText request with
  | .ok v => match Service.directory ((v.get? "params").getD .null) none with
    | .ok p => p.toList
    | .error _ => []
  | .error _ => []

/-- the locations to look at for paths: each may be a file, or a directory with a settings file -/
def locations (h : Host) (ps : List Path) : List Location :=
  let settings := Path.ofText Settings.fileName
  let asked := ps.flatMap fun p => [p, settings.under p]
  (h.globalSettings :: h.directory :: settings :: asked).map fun p =>
    (p.under h.directory).simplified.parts

/-! ## the session -/

/-- the variables of the environment -/
def environment : IO Environment := do
  match ← (IO.FS.readBinFile "/proc/self/environ").toBaseIO with
  | .error _ => pure []
  | .ok bytes =>
    let entries := Text.split '\x00' (Text.ofBytesShowing bytes.toList)
    pure (entries.map fun t => (t.takeWhile (· != '='), (t.dropWhile (· != '=')).drop 1))

/-- the time -/
def clock : IO Text := do
  let now ← Std.Time.Timestamp.now
  pure (Moment.ofSeconds now.toSecondsSinceUnixEpoch.val.toNat).text

/-- the session of this machine -/
def session : IO Session := do
  let environment ← environment
  let home := (environment.lookup "HOME".toList).getD ['/']
  let here := Path.ofText (← IO.currentDir).toString.toList
  let first ← IO.rand 0 0xffffffffffff
  let host : Host := {
    environment, here := here.parts, homes := { own := home }
    globalSettings := (Path.ofText ".config/supatypes/config.yaml").under (Path.ofText home)
    runName := fun n => Text.hexadecimal 12 (first + n)
    run := Filter.run environment here.parts }
  pure { host }

/-! ## steps -/

/-- a step of a session that begins with the entries at `known` -/
partial def performFrom {α : Type} (started : Nat) (known : List Location) (a : Action α)
    (s : Session) : IO (Except Fault α × Session) := do
  let files ← entries known
  let elapsed := Duration.real (Binary64.ofQuotient false ((← IO.monoMsNow) - started) 1000)
  let host := { s.host with clock := ← clock, elapsed }
  let (r, after) := StateT.run (ExceptT.run a) { s with host, files, output := [], errors := [] }
  let more := (after.files.entries.map Prod.fst).filter fun l => !(known.flatMap wayTo).contains l
  if more.isEmpty then
    settle files after.files
    IO.print (String.ofList after.output)
    IO.eprint (String.ofList after.errors)
    pure (r, after)
  else performFrom started (known ++ more) a s

/-- the locations of the files that are open for log messages -/
def logged (s : Session) : List Location :=
  s.log.routes.filterMap fun r => match r.sink with
    | .file l => some l
    | _ => none

/-- a step for which paths are named -/
def perform {α : Type} (named : List Path) (a : Action α) (s : Session) :
    IO (Except Fault α × Session) := do
  performFrom (← IO.monoMsNow) (locations s.host named ++ logged s ++ (← nearby)) a s

/-- the end of the program after a fault -/
def crash (f : Fault) : IO UInt32 := do
  IO.eprintln (String.ofList f.message)
  pure 1

/-- the requests in the standard input -/
partial def answer (s : Session) : IO UInt32 := do
  let line ← (← IO.getStdin).getLine
  if line.isEmpty then pure 0
  else
    let text : Text := line.toList
    match ← perform (namedIn text) (Service.serve none Service.replyOnErrors text) s with
    | (.ok _, s) => answer s
    | (.error f, _) => crash f

end DatabaseTypes.Machine

open DatabaseTypes in
/-- the program: its arguments, and the requests if it is to answer any -/
def main (args : List String) : IO UInt32 := do
  let texts := args.map String.toList
  match ← Machine.perform (texts.flatMap Machine.namedBy) (CommandLine.start texts)
      (← Machine.session) with
  | (.error f, _) => Machine.crash f
  | (.ok (.finished n), _) => pure n.toUInt32
  | (.ok .requests, s) => Machine.answer s
