import DatabaseTypes.Filter.Records.Table
import DatabaseTypes.Filter.Scene

/-!
# Scripts about records while they run

* `Filter.Records.State`    what there is while a script runs
* `Filter.Records.Turn`     why what is done goes on somewhere else
* `Filter.Records.Step`     what is done to the state, which may turn
* `Filter.Records.Place`    what can be given a value

The fields of a record are made once they are asked for, and the record is made of its fields once it
is asked for after one of them changed.
-/

namespace DatabaseTypes.Filter.Records

/-! ## the state -/

/-- what a name stands for: a value, and a table once there is one -/
structure Slot where
  value : Value := .unset
  table : Option Nat := none
  deriving Inhabited

/-- a text that is read record by record; what a command wrote has the status of the command -/
structure Source where
  name : Text
  rest : Text
  status : Option Nat := none

/-- what is written to: the program's own output, a file, or a command; what is held back is written once
it is let go, and has its last piece first -/
structure Drain where
  name : Text
  isCommand : Bool := false
  isOwn : Bool := false
  held : List Text := []

/-- what is held back, in its order -/
def Drain.text (d : Drain) : Text := d.held.reverse.flatten

/-- how many turns loops may take, and how often functions may be called, in one script -/
def greatestTurns : Nat := 400000

/-- what there is while a script runs -/
structure State where
  launcher : Launcher
  scene : Scene
  functions : List Function := []
  /-- what names stand for: everywhere, and in the function that runs, with how many functions run -/
  globals : Std.HashMap Text Slot := ∅
  locals : List (Text × Slot) := []
  depth : Nat := 0
  tables : Array Table := #[]
  /-- the record, unless it has to be made of its fields, and the fields, unless they have to be made of
  it -/
  record : Option Text := some []
  fields : Option (Array Value) := none
  /-- the input of the program that was not taken, the operand after the one that is read, whether an
  operand was a file, what is left of the file, and whether more of it is in the input -/
  input : Bytes := []
  operand : Nat := 1
  sawFile : Bool := false
  main : Option Text := none
  mainIsInput : Bool := false
  sources : List Source := []
  drains : List Drain := [{ name := "/dev/stdout", isOwn := true }]
  output : List Bytes := []
  errors : Bytes := []
  slept : Binary64 := .zero false
  /-- the ranges of records that go on -/
  within : List Nat := []
  patterns : Std.HashMap Text Pattern := ∅
  /-- the numbers that random ones are made of, and what they were begun with -/
  chances : Array Nat := #[]
  seed : Binary64 := .zero false
  /-- how many turns of loops and calls of functions may come -/
  turnsLeft : Nat := greatestTurns
  status : Nat := 0

/-- why what is done goes on somewhere else: with the next record or file, after all records, after a
function with its value, after a loop or with its next turn, never, or not at all for a reason -/
inductive Turn where
  | next
  | nextFile
  | leave
  | giveBack (v : Value)
  | stop
  | goOn
  | never
  | fault (message : Text)

/-- what is done to the state, which may turn -/
abbrev Step := ExceptT Turn (StateM State)

/-- how something ended that was done, whatever it is -/
def Step.attempt {α : Type} (x : Step α) : Step (Except Turn α) := fun s =>
  match x s with
  | (r, s) => (.ok r, s)

/-- one turn or call more; a script that takes too many never ends -/
def spend : Step Unit := fun s =>
  match s.turnsLeft with
  | 0 => (.error .never, s)
  | n + 1 => (.ok (), { s with turnsLeft := n })

/-- what can be given a value -/
inductive Place where
  | variable (name : Text)
  | field (n : Nat)
  | element (table : Nat) (key : Key)

/-! ## names -/

/-- what a name stands for -/
def State.slot (s : State) (name : Text) : Slot :=
  match s.locals.lookup name with
  | some slot => slot
  | none => (s.globals.get? name).getD {}

/-- a name that stands for something -/
def State.withSlot (s : State) (name : Text) (slot : Slot) : State :=
  if s.locals.any (·.1 == name) then
    { s with locals := s.locals.map fun l => if l.1 == name then (name, slot) else l }
  else { s with globals := s.globals.insert name slot }

/-- a value that a name stands for everywhere -/
def State.withValue (s : State) (name : Text) (v : Value) : State :=
  { s with globals := s.globals.insert name { value := v } }

/-- the value that a name stands for everywhere -/
def State.global (s : State) (name : Text) : Value := ((s.globals.get? name).getD {}).value

/-- the value that a name stands for everywhere, as a text -/
def State.textOf (s : State) (name : Text) : Text := (s.global name).toText "%.6g"

/-- a name stands for the value that was given to it -/
theorem State.global_withValue (s : State) (name : Text) (v : Value) :
    (s.withValue name v).global name = v := by
  simp [State.withValue, State.global]

/-- the format of numbers in texts -/
def State.format (s : State) : Text := s.textOf "CONVFMT"

/-- the number of the table that a name stands for, which is a new one if there is none -/
def tableOf (name : Text) : Step Nat := fun s =>
  let slot := s.slot name
  match slot.table with
  | some n => (.ok n, s)
  | none =>
    let n := s.tables.size
    (.ok n, { s with tables := s.tables.push {} }.withSlot name { slot with table := some n })

/-- a table changed -/
def State.withTable (s : State) (n : Nat) (change : Table → Table) : State :=
  { s with tables := s.tables.modify n change }

/-- the table of a number -/
def State.table (s : State) (n : Nat) : Table := (s.tables[n]?).getD {}

/-- the end with a message about what happened while a record was read -/
def refuse {α : Type} (message : Text) : Step α := do
  let s ← get
  throw (.fault ("run time error: " ++ message ++ "\n\tFILENAME=\"" ++ s.textOf "FILENAME" ++ "\" FNR="
    ++ s.textOf "FNR" ++ " NR=" ++ s.textOf "NR"))

/-- a value as a text -/
def textOf (v : Value) : Step Text := do
  match v with
  | .text t | .input t => pure t
  | .unset => pure []
  | .number x => pure (Value.numberText (← get).format x)

/-- a value as it is printed -/
def printedText (v : Value) : Step Text := do
  match v with
  | .text t | .input t => pure t
  | .unset => pure []
  | .number x => pure (Value.numberText ((← get).textOf "OFMT") x)

/-- the key that a value is: a whole number, or a text -/
def keyOf (v : Value) : Step Key := do
  match v with
  | .number x => match x.toInt? with
    | some i => if i.natAbs < Nat.pow 2 31 then pure (.whole i) else pure (.text (← textOf v))
    | none => pure (.text (← textOf v))
  | v => pure (.text (← textOf v))

/-- the key that values are together -/
def keyOfAll (vs : List Value) : Step Key := do
  match vs with
  | [v] => keyOf v
  | vs => pure (.text (Text.joined ((← get).textOf "SUBSEP") (← vs.mapM textOf)))

/-! ## patterns -/

/-- the pattern of a text; each text is read once -/
def patternFor (t : Text) : Step Pattern := do
  match (← get).patterns.get? t with
  | some p => pure p
  | none => match patternOf t with
    | .error f => refuse (f.message t)
    | .ok p =>
      modify fun s => { s with patterns := s.patterns.insert t p }
      pure p

/-- what stands between fields for a text -/
def separatorFor (t : Text) : Step Separator := do
  match t with
  | [] => pure .nothing
  | [' '] => pure .blanks
  | [c] => pure (.char c)
  | t => pure (.like (← patternFor t))

/-- what stands between the fields of the record -/
def fieldSeparator : Step Separator := do separatorFor ((← get).textOf "FS")

/-! ## the record -/

/-- the fields of the record -/
def fields : Step (Array Value) := do
  match (← get).fields with
  | some fs => pure fs
  | none =>
    let separator ← fieldSeparator
    let fs := ((pieces separator ((← get).record.getD [])).map Value.input).toArray
    modify fun s => { s with fields := some fs }
    pure fs

/-- the record -/
def record : Step Text := do
  match (← get).record with
  | some t => pure t
  | none =>
    let fs ← fields
    let t := Text.joined ((← get).textOf "OFS") (← fs.toList.mapM textOf)
    modify fun s => { s with record := some t }
    pure t

/-- a text is the record -/
def setRecord (t : Text) : Step Unit := modify fun s => { s with record := some t, fields := none }

/-- as many fields as asked for; those that are lacking are empty -/
def setFieldCount (n : Nat) : Step Unit := do
  let fs ← fields
  let fs := fs.take n ++ Array.replicate (n - fs.size) (Value.text [])
  modify fun s => { s with record := none, fields := some fs }

/-- the value of a field; the one before the first is the record -/
def fieldValue (n : Nat) : Step Value := do
  if n = 0 then pure (.input (← record)) else pure (((← fields)[n - 1]?).getD (.input []))

/-- a field with a value -/
def setField (n : Nat) (v : Value) : Step Unit := do
  if n = 0 then setRecord (← textOf v)
  else
    let fs ← fields
    modify fun s => { s with fields := none }
    let fs := fs ++ Array.replicate (n - fs.size) (Value.text [])
    modify fun s => { s with record := none, fields := some (fs.set! (n - 1) v) }

/-! ## values -/

/-- the value that a name stands for -/
def valueOf (name : Text) : Step Value := do
  if name = "NF" then pure (.ofNat (← fields).size) else pure ((← get).slot name).value

/-- a name that stands for a value from now on -/
def setValue (name : Text) (v : Value) : Step Unit := do
  if name = "NF" then
    let n := wholePart v.toNumber
    if n < 0 then refuse "negative value assigned to NF"
    setFieldCount n.toNat
  else
    if name = "FS" ∨ name = "RS" then
      let t ← textOf v
      if 2 ≤ t.length then
        let _ ← patternFor t
      if name = "FS" then
        let _ ← fields
    modify fun s => s.withSlot name { s.slot name with value := v }

/-- the value in a place -/
def valueAt : Place → Step Value
  | .variable name => valueOf name
  | .field n => fieldValue n
  | .element n k => do pure (((← get).table n).get k)

/-- a value in a place -/
def setAt (v : Value) : Place → Step Unit
  | .variable name => setValue name v
  | .field n => setField n v
  | .element n k => modify fun s => s.withTable n fun t => t.stored k v

/-! ## writing -/

/-- the outcome of a command by a shell: what it wrote and its status; other changes are kept.  Without an
input of its own it takes the input of the program. -/
def carriedOut (command : Text) (input : Option Text) : Step (Text × Nat) := do
  let s ← get
  let o := s.launcher.script s.scene (Text.ofBytesShowing (asBytes command)) ((input.map asBytes).getD s.input)
  set { s with
    scene := { s.scene with files := o.files.getD s.scene.files }
    errors := s.errors ++ o.errors, slept := s.slept.plus o.slept
    input := if input.isSome then s.input else o.left }
  match o.ending with
  | .never => throw .never
  | .status n => pure (asText o.output, n)
  | .signal n => pure (asText o.output, 256 + n)

/-- a text at the end of the program's own output -/
def emit (t : Text) : Step Unit := do
  if !t.isEmpty then modify fun s => { s with output := asBytes t :: s.output }

/-- what a drain holds back, let go: only files and the own output take it before they are closed -/
def letGo (d : Drain) : Step Drain := do
  if d.isOwn then
    emit d.text
    pure { d with held := [] }
  else if d.isCommand || d.held.isEmpty then pure d
  else
    let s ← get
    match s.scene.written d.name fun bytes => bytes ++ asBytes d.text with
    | .ok files =>
      set { s with scene := { s.scene with files } }
      pure { d with held := [] }
    | .error _ => pure { d with held := [] }

/-- everything that is held back, let go -/
def letAllGo : Step Unit := do
  let drains ← (← get).drains.mapM letGo
  modify fun s => { s with drains }

/-- a drain closed, and its status -/
def closeDrain (d : Drain) : Step Nat := do
  if d.isCommand then
    let (t, status) ← carriedOut d.name (some d.text)
    emit t
    pure status
  else
    let _ ← letGo d
    pure 0

/-- the names of the program's own output -/
def ownOutputNames : List Text := ["/dev/stdout", "-"]

/-- a text to the program's own output -/
def write (t : Text) : Step Unit := modify fun s =>
  { s with drains := s.drains.map fun d => if d.isOwn then { d with held := t :: d.held } else d }

/-- the drain of a name in front of the others; there is a new one if there was none -/
def drainFor (sink : Sink) (name : Text) : Step Unit := do
  let s ← get
  let isIt (d : Drain) : Bool :=
    if sink = .command then d.isCommand && d.name == name
    else if ownOutputNames.contains name then d.isOwn else !d.isCommand && d.name == name
  match s.drains.find? isIt with
  | some d => set { s with drains := d :: s.drains.filter fun d => !isIt d }
  | none =>
    if sink = .command then
      letAllGo
      modify fun s => { s with drains := { name, isCommand := true } :: s.drains }
    else
      let opened := s.scene.written name fun bytes => if sink = .fileEnd then bytes else []
      match opened with
      | .error cause =>
        throw (.fault ("cannot open \"" ++ name ++ "\" for output (" ++ cause.message ++ ")"))
      | .ok files =>
        set { s with scene := { s.scene with files }, drains := { name } :: s.drains }

/-- a text to the drain of a name -/
def writeTo (sink : Sink) (name t : Text) : Step Unit := do
  if sink != .command ∧ name = "/dev/stderr" then
    modify fun s => { s with errors := s.errors ++ asBytes t }
  else
    drainFor sink name
    modify fun s => { s with drains := match s.drains with
      | d :: ds => { d with held := t :: d.held } :: ds
      | [] => [] }

/-- what is open by a name, closed; the status, or one below zero if there is nothing -/
def close (name : Text) : Step Int := do
  let s ← get
  match s.sources.find? fun x => x.name == name, s.drains.find? fun d => !d.isOwn && d.name == name with
  | some x, none =>
    set { s with sources := s.sources.filter fun x => x.name != name }
    pure (x.status.getD 0)
  | sources, some d =>
    set { s with
      sources := s.sources.filter fun x => x.name != name
      drains := s.drains.filter fun d => d.isOwn || d.name != name }
    let status ← closeDrain d
    pure (((sources.bind (·.status)).getD status : Nat) : Int)
  | none, none => pure (-1)

/-- everything closed, the drain that was used last first -/
def closeAll : Step Unit := do
  let drains := (← get).drains
  modify fun s => { s with drains := [] }
  for d in drains do
    if d.isOwn then emit d.text
    else
      let _ ← closeDrain d

end DatabaseTypes.Filter.Records
