import DatabaseTypes.Decimal.Arithmetic
import DatabaseTypes.Filter.Scene
import DatabaseTypes.Filter.Shell.Grammar
import DatabaseTypes.Signal

/-!
# The state of a shell

* `Shell.Flow`     what happens after a command
* `Shell.Target`   where something that is written goes
* `Shell.State`    variables, files, what is read and what was written
-/

namespace DatabaseTypes.Filter.Shell

/-- what happens after a command -/
inductive Flow where
  | on
  | leaving
  | killed (signal : Nat)
  | never
  | breaking (loops : Nat)
  | continuing (loops : Nat)
  | returning
  deriving DecidableEq

/-- where something that is written goes: a text that is kept by its number, a file, or nowhere -/
inductive Target where
  | kept (n : Nat)
  | file (l : Location)
  | nowhere
  deriving DecidableEq

/-- the state of a shell -/
structure State where
  scene : Scene
  bindings : List (Text × Text) := []
  exported : List Text := []
  fixed : List Text := []
  arguments : List Text := []
  functions : List (Text × Command) := []
  traps : List (Text × Text) := []
  options : Text := []
  status : Nat := 0
  identifier : Nat := 1000
  line : Nat := 1
  /-- the command or the file that messages name -/
  speaker : Text := []
  /-- the mask of new files, in digits -/
  mask : Text := "0022"
  /-- other names of commands -/
  aliases : List (Text × Text) := []
  /-- the number of the argument that options are looked for in, and how much of it is looked at -/
  optionAt : Nat × Option Nat := (1, none)
  loops : Nat := 0
  inFunction : Bool := false
  /-- the values that the variables of the running function have outside of it -/
  outer : List (Text × Option Text) := []
  input : Bytes := []
  /-- the texts that are kept, each with its last byte first -/
  kept : List Bytes := [[], []]
  targets : List (Nat × Target) := [(1, .kept 0), (2, .kept 1)]
  slept : Binary64 := .zero false
  lasting : Binary64 := .zero false
  limit : Binary64 := .infinite false
  flow : Flow := .on

namespace State

/-! ## variables -/

/-- does an option hold, by its letter? -/
def has (s : State) (c : Char) : Bool := s.options.contains c

/-- the value of a variable -/
def value? (s : State) (name : Text) : Option Text := s.bindings.lookup name

/-- a variable that other programs are given -/
def exporting (s : State) (name : Text) : State :=
  if s.exported.contains name then s else { s with exported := s.exported ++ [name] }

/-- a variable with a value -/
def assigned (s : State) (name value : Text) : State :=
  let s := if s.has 'a' then s.exporting name else s
  let s := if name = "OPTIND" then { s with optionAt := (((count? value).filter (0 < ·)).getD 1, none) } else s
  if s.bindings.any (·.1 == name) then
    { s with bindings := s.bindings.map fun v => if v.1 = name then (name, value) else v }
  else { s with bindings := s.bindings ++ [(name, value)] }

/-- a variable without a value -/
def cleared (s : State) (name : Text) : State :=
  { s with bindings := s.bindings.filter (·.1 != name), exported := s.exported.filter (· != name) }

/-- a variable that is the running function's own from now on -/
def localised (s : State) (name : Text) : State :=
  if s.outer.any (·.1 == name) then s else { s with outer := (name, s.value? name) :: s.outer }

/-- the variables of the running function with the values that they have outside of it -/
def withOuter (s : State) : State :=
  s.outer.foldl (fun s v => match v.2 with
    | some value => s.assigned v.1 value
    | none => s.cleared v.1) { s with outer := [] }

/-- the variables that other programs are given -/
def environment (s : State) : List (Text × Text) :=
  s.bindings.filter fun v => s.exported.contains v.1

/-- the name of the shell -/
def name (s : State) : Text := s.scene.called

/-! ## writing -/

/-- the state after the files are changed; what is open for writing stays with its file, wherever that
is -/
def withFiles (s : State) (files : Files) : State :=
  let followed : Target → Target
    | .file l => ((s.scene.files.whereabouts files l).map Target.file).getD .nowhere
    | t => t
  { s with
    scene := { s.scene with files }, targets := s.targets.map fun t => (t.1, followed t.2) }

/-- bytes at the end of what is kept by a number, or of a file -/
def wroteTo (s : State) (t : Target) (bytes : Bytes) : State :=
  match t with
  | .kept n => { s with kept := s.kept.modify n (bytes.reverse ++ ·) }
  | .nowhere => s
  | .file l =>
    let old := match s.scene.files.find? l with
      | some (.file old) => old
      | _ => []
    { s with scene := { s.scene with files := s.scene.files.set l (.file (old ++ bytes)) } }

/-- bytes written to the place of a number -/
def wrote (s : State) (number : Nat) (bytes : Bytes) : State :=
  if bytes.isEmpty then s
  else match s.targets.lookup number with
    | some t => s.wroteTo t bytes
    | none => s

/-- the state in which messages name a command or a file -/
def speaking (s : State) (name : Text) : State := { s with speaker := name }

/-- a message of the shell -/
def complained (s : State) (message : Text) : State :=
  let front : Text := if s.speaker.isEmpty then [] else s.speaker ++ ": "
  s.wrote 2 (remark (s.name ++ ": " ++ Text.ofNat s.line) (front ++ message))

/-- a status -/
def ended (s : State) (status : Nat) : State := { s with status }

/-- a message of the shell and a status -/
def failed (s : State) (message : Text) (status : Nat := 2) : State :=
  (s.complained message).ended status

/-- a message of the shell, which ends with it -/
def broken (s : State) (message : Text) (status : Nat := 2) : State :=
  { s.failed message status with flow := .leaving }

/-- a variable with a value, unless it is fixed -/
def given (s : State) (name value : Text) : State :=
  if s.fixed.contains name then s.broken (name ++ ": is read only") else s.assigned name value

/-! ## time -/

/-- the later of two times -/
def later (x y : Binary64) : Binary64 := if x.atMost y then y else x

/-- some time later; the shell never ends if its time is over -/
def waited (s : State) (time : Binary64) : State :=
  let slept := s.slept.plus time
  { s with slept, flow := if !time.isZero && s.limit.atMost slept then .never else s.flow }

/-- the time that is left -/
def timeLeft (s : State) : Binary64 := s.limit.plus s.slept.negated

/-! ## shells inside -/

/-- the state after commands that ran in a shell inside, which changes nothing but files, what is
read and what is written -/
def resumed (s inner : State) : State :=
  let flow : Flow := match inner.flow with
    | .killed n => .killed n
    | .never => .never
    | _ => s.flow
  { s.withFiles inner.scene.files with
    input := inner.input, kept := inner.kept, status := inner.status, flow
    slept := inner.slept, lasting := later s.lasting inner.lasting }

/-- a new text that is kept, and its number -/
def keeping (s : State) : Nat × State := (s.kept.length, { s with kept := s.kept ++ [[]] })

/-- what is kept by a number -/
def keptAt (s : State) (n : Nat) : Bytes := (s.kept.getD n []).reverse

/-- the last text that was kept, which is kept no longer -/
def taken (s : State) : Bytes × State :=
  ((s.kept.getLast?.getD []).reverse, { s with kept := s.kept.dropLast })

/-- where something that is written to the place of a number goes -/
def redirected (s : State) (number : Nat) (target : Option Target) : State :=
  let others := s.targets.filter (·.1 != number)
  { s with targets := match target with
    | some t => (number, t) :: others
    | none => others }

end State
end DatabaseTypes.Filter.Shell
