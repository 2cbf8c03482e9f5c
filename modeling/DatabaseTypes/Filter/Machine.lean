import DatabaseTypes.Filter.Arguments
import DatabaseTypes.Filter.Scene

/-!
# Paths and the machine

* `Filter.resolving`   paths from the root on
* `Filter.pointing`    what links point to, or paths from the root on
* `Filter.locating`    the files of programs
* `Filter.presenting`  the names of the machine
* `Filter.connected`   is the input a terminal?
-/

namespace DatabaseTypes.Filter

/-! ## paths -/

/-- how much of a path must be there: all of it, all but its last part, or nothing -/
inductive Presence where
  | all
  | parents
  | nothing
  deriving DecidableEq

/-- a location as a path from the root on -/
def pathOf (l : Location) : Text := '/' :: Text.joined ['/'] l

/-- a location whose parts need not be there -/
def looseLocation (s : Scene) (t : Text) : Location :=
  let start := if t.head? = some '/' then [] else s.here
  (Text.split '/' t).foldl (fun l part =>
    if part.isEmpty ∨ part = ['.'] then l else if part = ['.', '.'] then l.dropLast else l ++ [part]) start

/-- a path from the root on -/
def resolved (s : Scene) (p : Presence) (t : Text) : Except SystemCause Text :=
  let s : Scene := { s with files := Scene.withUsualPlaces s.files }
  if t.isEmpty then .error .notFound
  else match p, s.entry t with
    | .nothing, .error _ => .ok (pathOf (looseLocation s t))
    | _, .error cause => .error cause
    | .all, .ok (_, none) => .error .notFound
    | _, .ok (l, _) => .ok (pathOf l)

/-- the options of paths from the root on -/
def pathLetters : Letters where
  plain := "emLPqsz"
  words := [("canonicalize-existing", 'e'), ("canonicalize-missing", 'm'), ("logical", 'L'), ("physical", 'P'),
    ("quiet", 'q'), ("strip", 's'), ("no-symlinks", 's'), ("zero", 'z')]

/-- paths from the root on, as lines, and messages about those that are not -/
def resolvedLines (s : Scene) (p : Presence) (feed : Text) (quiet : Bool) (ts : List Text) (input : Bytes) :
    Outcome :=
  let results := ts.map fun t => (t, resolved s p t)
  let errors := results.flatMap fun r => match r.2 with
    | .error cause => if quiet then [] else remark s.called (Scene.plainly r.1 cause)
    | .ok _ => []
  let failed := results.any fun r => r.2.toOption.isNone
  { ending := .status (if failed then 1 else 0), errors, left := input
    output := Text.toBytes ((results.filterMap fun r => r.2.toOption).flatMap (· ++ feed)) }

/-- write paths from the root on -/
def resolving : Program := withArguments pathLetters fun s a input =>
  let p : Presence := if a.has 'e' then .all else if a.has 'm' then .nothing else .parents
  if a.operands.isEmpty then s.misuse "missing operand" input
  else resolvedLines s p [if a.has 'z' then '\x00' else '\n'] (a.has 'q') a.operands input

/-- the options of what links point to -/
def linkLetters : Letters where
  plain := "femnqsvz"
  words := [("canonicalize", 'f'), ("canonicalize-existing", 'e'), ("canonicalize-missing", 'm'),
    ("no-newline", 'n'), ("quiet", 'q'), ("silent", 's'), ("verbose", 'v'), ("zero", 'z')]

/-- write what links point to, of which there are none, or paths from the root on -/
def pointing : Program := withArguments linkLetters fun s a input =>
  let feed : Text := if a.has 'n' && a.operands.length == 1 then [] else [if a.has 'z' then '\x00' else '\n']
  if a.operands.isEmpty then s.misuse "missing operand" input
  else if a.has 'f' || a.has 'e' || a.has 'm' then
    let p : Presence := if a.has 'e' then .all else if a.has 'm' then .nothing else .parents
    resolvedLines s p feed (!a.has 'v') a.operands input
  else
    let why (t : Text) : Text := match s.entry t with
      | .error cause => cause.message
      | .ok (_, none) => SystemCause.notFound.message
      | .ok (_, some _) => "Invalid argument"
    { ending := .status 1, left := input
      errors := if a.has 'v' then a.operands.flatMap fun t => remark s.called (t ++ ": " ++ why t) else [] }

/-! ## programs -/

/-- the paths at which a program is, among the programs by these names -/
def programPaths (names : List Text) (s : Scene) (name : Text) : List Text :=
  let paths := if name.contains '/' then [name] else s.searched.map (Scene.inDirectory name)
  paths.filter fun t => (Scene.programAt names s t).toOption.isSome

/-- write the paths of programs: the first one for each, or all -/
def locating (names : List Text) : Program := fun s args input =>
  match Arguments.ofFront { plain := "as", failure := 2 } args with
  | .error bad =>
    let own := (programPaths names s s.called).headD s.called
    let fault := match bad with
      | .letter c => ['-', c]
      | bad => bad.message
    { ending := .status 2, left := input, errors := Text.toBytes ("Illegal option " ++ fault ++ ['\n'])
      output := Text.toBytes ("Usage: " ++ own ++ " [-as] args\n") }
  | .ok a =>
    let found := a.operands.map (programPaths names s)
    let shown := found.flatMap fun ts => if a.has 'a' then ts else ts.take 1
    { ending := .status (if found.isEmpty || found.any (·.isEmpty) then 1 else 0), left := input
      output := if a.has 's' then [] else Text.toBytes (shown.flatMap (· ++ ['\n'])) }

/-! ## the machine -/

/-- the options of the names of the machine -/
def machineLetters : Letters where
  plain := "sonrvmpi"
  words := [("kernel-name", 's'), ("operating-system", 'o'), ("nodename", 'n'), ("kernel-release", 'r'),
    ("kernel-version", 'v'), ("machine", 'm'), ("processor", 'p'), ("hardware-platform", 'i')]

/-- write the names of the machine: of its kernel, of its kind, and of its system -/
def presenting : Program := withArguments machineLetters fun s a input =>
  match a.operands with
  | extra :: _ => s.misuse ("extra operand '" ++ extra ++ "'") input
  | [] =>
    let parts : List (Char × Text) := [('s', "Linux"), ('m', "x86_64"), ('p', "unknown"), ('i', "unknown"),
      ('o', "GNU/Linux")]
    let shown := parts.filter fun p => a.has p.1 || (p.1 == 's' && a.options.isEmpty)
    { output := Text.toBytes (Text.joined [' '] (shown.map (·.2)) ++ ['\n']), left := input }

/-- is the input a terminal?  It is not. -/
def connected : Program :=
  withArguments { plain := "s", words := [("silent", 's'), ("quiet", 's')], failure := 2 } fun s a input =>
    match a.operands with
    | extra :: _ => s.misuse ("extra operand '" ++ extra ++ "'") input 2
    | [] =>
      { ending := .status 1, output := if a.has 's' then [] else Text.toBytes "not a tty\n", left := input }

end DatabaseTypes.Filter
