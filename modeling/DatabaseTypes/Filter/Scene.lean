import DatabaseTypes.Filter.Basic

/-!
# Files of filters

* `Filter.Scene.read`      the bytes of a file
* `Filter.Scene.written`   the files after a file is written
* `Filter.Scene.program`   the program that a name means
* `Filter.Scene.operands`  what the operands of a filter mean
-/

namespace DatabaseTypes.Filter.Scene

/-! ## entries -/

/-- the file that takes everything and holds nothing -/
def void : Text := "/dev/null"

/-- the entry of a text as a path, and its location; what ends with a slash must be a directory -/
def entry (s : Scene) (t : Text) : Except SystemCause (Location × Option Entry) :=
  if t.isEmpty then .error .notFound
  else do
    let l ← s.files.locate s.here (Path.ofText t)
    match s.files.find? l with
    | some (.file _) =>
      if Text.endsWith ['/'] t || Text.endsWith ['/', '.'] t then .error .notDirectory
      else pure (l, s.files.find? l)
    | e => pure (l, e)

/-- the bytes of a file -/
def read (s : Scene) (t : Text) : Except SystemCause Bytes :=
  if t = void then .ok []
  else do match (← s.entry t).2 with
    | some (.file bytes) => pure bytes
    | some .directory => .error .isDirectory
    | none => .error .notFound

/-- does a text name a regular file? -/
def isFile (s : Scene) (t : Text) : Bool :=
  match s.entry t with
  | .ok (_, some (.file _)) => true
  | _ => false

/-- the files after the bytes of one of them are changed -/
def written (s : Scene) (t : Text) (change : Bytes → Bytes) : Except SystemCause Files :=
  if t = void then .ok s.files
  else do
    let (l, e) ← s.entry t
    match e with
    | some .directory => .error .isDirectory
    | some (.file bytes) => pure (s.files.set l (.file (change bytes)))
    | none =>
      if Text.endsWith ['/'] t then .error .isDirectory
      else pure (s.files.set l (.file (change [])))

/-! ## programs -/

/-- the directories with programs -/
def programPlaces : List Location := [["bin"], ["usr", "bin"]]

/-- the other directories that every machine has -/
def usualPlaces : List Location := ["dev", "etc", "home", "lib", "opt", "proc", "root", "run", "sbin",
  "srv", "sys", "tmp", "var", "usr/lib", "usr/local/bin", "usr/sbin", "usr/share"].map fun t =>
    Text.split '/' (String.toList t)

/-- files with the directories that every machine has -/
def withUsualPlaces (files : Files) : Files :=
  (programPlaces ++ usualPlaces).foldl (fun fs l => fs.plant l .directory) files

/-- the program at a path among the programs by these names; nothing else can be started -/
def programAt (names : List Text) (s : Scene) (t : Text) : Except SystemCause Text := do
  let (l, e) ← entry { s with files := withUsualPlaces s.files } t
  let name := l.getLast?.getD []
  if e.isSome then .error .notPermitted
  else if !programPlaces.contains l.dropLast || !names.contains name then .error .notFound
  else if Text.endsWith ['/'] t then .error .notDirectory
  else pure name

/-- where programs are looked for: the directories of a variable, or the usual ones -/
def searched (s : Scene) : List Text :=
  Text.split ':' ((s.environment.lookup ("PATH" : Text)).getD "/bin:/usr/bin")

/-- a name in a directory -/
def inDirectory (name directory : Text) : Text :=
  if directory.isEmpty || Text.endsWith ['/'] directory then directory ++ name
  else directory ++ ['/'] ++ name

/-- the more telling of two causes: that something is not there tells least -/
def telling (first second : SystemCause) : SystemCause :=
  if first = .notFound ∨ first = .notDirectory then second else first

/-- the first program at one of the paths, or the most telling cause for there being none -/
def firstProgram (names : List Text) (s : Scene) : List Text → Except SystemCause Text
  | [] => .error .notFound
  | [t] => programAt names s t
  | t :: ts => match programAt names s t with
    | .ok name => .ok name
    | .error cause => (firstProgram names s ts).mapError (telling cause)

/-- the program that a name means, among the programs by these names: a name without a slash is
looked for in the directories of programs -/
def program (names : List Text) (s : Scene) (name : Text) : Except SystemCause Text :=
  if name.contains '/' then programAt names s name
  else firstProgram names s (s.searched.map (inDirectory name))

/-! ## operands -/

/-- an operand with its bytes, or why there are none -/
abbrev Operand := Text × Except SystemCause Bytes

/-- the paths of the input -/
def inputPaths : List Text := ["/dev/stdin", "/dev/fd/0", "/proc/self/fd/0"]

/-- what operands mean, and what is left of the input: a dash is the input, once -/
def operandsFrom (s : Scene) : List Text → Bytes → List Operand × Bytes
  | [], input => ([], input)
  | t :: ts, input =>
    if t = ['-'] ∨ inputPaths.contains t then
      let (more, left) := operandsFrom s ts []
      ((t, .ok input) :: more, left)
    else
      let (more, left) := operandsFrom s ts input
      ((t, s.read t) :: more, left)

/-- what operands mean, and what is left of the input; without any it is the input -/
def operands (s : Scene) (ts : List Text) (input : Bytes) : List Operand × Bytes :=
  s.operandsFrom (if ts.isEmpty then [['-']] else ts) input

/-- what a filter makes of its operands: it tells why some cannot be read, and goes on with the
others -/
def across (s : Scene) (telling : Text → SystemCause → Text) (failure : Nat)
    (ts : List Text) (input : Bytes) (make : List (Text × Bytes) → Bytes) : Outcome :=
  let (os, left) := s.operands ts input
  let readable := os.filterMap fun o => o.2.toOption.map fun bytes => (o.1, bytes)
  let errors := os.flatMap fun o => match o.2 with
    | .ok _ => []
    | .error cause => remark s.called (telling o.1 cause)
  let status := if errors.isEmpty then 0 else failure
  { ending := .status status, output := make readable, errors, left }

/-- an operand and why it cannot be read -/
def plainly (operand : Text) (cause : SystemCause) : Text := operand ++ ": " ++ cause.message

end DatabaseTypes.Filter.Scene
