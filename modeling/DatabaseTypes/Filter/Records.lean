import DatabaseTypes.Filter.Records.Evaluation
import DatabaseTypes.Filter.Records.Reading

/-!
# The filter for records

A script is done to the records of files; values may be given to its names before.

* `Filter.RecordErrand`   what the filter is asked for
* `Filter.recording`      the filter
-/

namespace DatabaseTypes.Filter

open Records

/-- what the filter is asked for: values by their names, the separator of fields, the files of the script,
and what follows -/
structure RecordErrand where
  given : List (Text × Text) := []
  separator : Option Text := none
  scripts : List Text := []
  operands : List Text := []

namespace RecordErrand

/-- an errand with one more option by its letter -/
def withOption (e : RecordErrand) (letter : Char) (value : Text) : Except Text RecordErrand :=
  if letter = 'F' then
    let t := Records.unescaped value.length value
    match Separator.ofText t with
    | .ok _ => .ok { e with separator := some t }
    | .error f => .error ("line 0: " ++ f.message t)
  else if letter = 'f' then .ok { e with scripts := e.scripts ++ [value] }
  else match givenValue? value with
    | some given => .ok { e with given := e.given ++ [given] }
    | none => .error ("improper assignment: -v " ++ value)

/-- what arguments ask for, or what is wrong with them -/
def ofArguments : List Text → RecordErrand → Except Text RecordErrand
  | [], e => .ok e
  | ['-', '-'] :: ts, e => .ok { e with operands := ts }
  | ('-' :: letter :: value) :: ts, e =>
    if letter = 'F' ∨ letter = 'f' ∨ letter = 'v' then
      match value, ts with
      | [], [] => .error ("option -" ++ [letter] ++ " lacks argument")
      | [], v :: ts => (e.withOption letter v).bind (ofArguments ts)
      | value, ts => (e.withOption letter value).bind (ofArguments ts)
    else .error ("not an option: " ++ '-' :: letter :: value)
  | ts, e => .ok { e with operands := ts }

/-- arguments that are no options are operands -/
theorem ofArguments_operand (c : Char) (t : Text) (ts : List Text) (e : RecordErrand) (h : c ≠ '-') :
    ofArguments ((c :: t) :: ts) e = .ok { e with operands := (c :: t) :: ts } := by
  rw [ofArguments] <;> simp [h]

/-- the text of the script and the name of its file, and the operands after it -/
def script (e : RecordErrand) (s : Scene) (input : Bytes) : Except Text (Text × Option Text × RecordErrand) := do
  match e.scripts, e.operands with
  | [], [] => throw "Usage: mawk [Options] [Program] [file ...]".toList
  | [], t :: ts => pure (t, none, { e with operands := ts })
  | names, _ =>
    let texts ← names.mapM fun name =>
      if name = ['-'] ∨ Scene.inputPaths.contains name then .ok (asText input)
      else match s.read name with
        | .ok bytes => .ok (asText bytes)
        | .error cause => .error ("cannot open " ++ name ++ " (" ++ cause.message ++ ")")
    pure (Text.joined ['\n'] texts, names.getLast?, e)

end RecordErrand

/-- the state before a script begins -/
def stateFor (launcher : Launcher) (s : Scene) (e : RecordErrand) (functions : List Function) (input : Bytes) :
    State :=
  let bytes (t : Text) : Text := asText (Text.toBytes t)
  let arguments := (s.called :: e.operands).zipIdx.map fun p => (p.2, Value.input (bytes p.1))
  let names := arguments.foldl (fun (t : Records.Table) p => t.put (.whole p.1) p.2) {}
  let environment := s.environment.foldl (fun (t : Records.Table) p => t.put (.text (bytes p.1)) (.input (bytes p.2))) {}
  let own : List (Text × Slot) := [
    ("FS", { value := .text ((e.separator.map bytes).getD [' ']) }), ("OFS", { value := .text [' '] }),
    ("RS", { value := .text ['\n'] }), ("ORS", { value := .text ['\n'] }), ("FILENAME", { value := .text [] }),
    ("NR", { value := .ofNat 0 }), ("FNR", { value := .ofNat 0 }), ("SUBSEP", { value := .text ['\x1c'] }),
    ("RSTART", { value := .ofNat 0 }), ("RLENGTH", { value := .number (.ofInt (-1)) }),
    ("CONVFMT", { value := .text "%.6g" }), ("OFMT", { value := .text "%.6g" }),
    ("ARGC", { value := .ofNat arguments.length }),
    ("ARGV", { table := some 0 }), ("ENVIRON", { table := some 1 })]
  let given := e.given.map fun g => (g.1, ({ value := .input (bytes g.2) } : Slot))
  { launcher, scene := s, functions, input
    globals := Std.HashMap.ofList (own ++ given), tables := #[names, environment] }

/-- what is left in the end; messages come after what was written before -/
def outcomeOf (s : State) (ended : Except Turn Unit) : Outcome :=
  let ending : Ending := match ended with
    | .error .never => .never
    | .error (.fault _) => .status 2
    | _ => .status s.status
  { ending, output := s.output.reverse.flatten, errors := s.errors, slept := s.slept, left := s.input
    files := some s.scene.files }

/-- a script done, and everything closed after it -/
def runScript (called : Text) (script : Script) : Step Unit := do
  match ← script.performed.attempt with
  | .ok () => closeAll
  | .error (.fault message) =>
    modify fun s => { s with errors := s.errors ++ asBytes (called ++ ": " ++ message ++ ['\n']) }
    closeAll
    throw (.fault message)
  | .error t => throw t

/-- do a script to the records of files -/
def recording (launcher : Launcher) : Program := fun s args input =>
  match RecordErrand.ofArguments args {} with
  | .error message => s.complaint message input 2
  | .ok e => match e.script s input with
    | .error message => s.complaint message input 2
    | .ok (text, file, e) => match Script.of (asText (Text.toBytes text)) with
      | .error fault =>
        let place (remark : Text) : Text := match file with
          | some name => if Text.startsWith "line ".toList remark then name ++ ": " ++ remark else remark
          | none => remark
        { ending := .status 2, left := input
          errors := fault.remarks.flatMap fun r => remark s.called (place r) }
      | .ok script =>
        let (ended, s) := runScript s.called script (stateFor launcher s e script.functions input)
        outcomeOf s ended

end DatabaseTypes.Filter
