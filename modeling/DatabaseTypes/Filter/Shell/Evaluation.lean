import DatabaseTypes.Filter.Shell.Builtin
import DatabaseTypes.Filter.Shell.Expansion
import DatabaseTypes.Filter.Shell.Reading

/-!
# Running commands

Every step goes down by one; a shell that is not done by then is taken to run for ever.

* `Shell.evaluate`      a command in a state
* `Shell.runLines`      the lines of a script
* `Shell.startProgram`  the outcome of a program by its name, which may be a shell
-/

namespace DatabaseTypes.Filter.Shell

/-! ## redirections -/

/-- why a file cannot be opened, in words -/
def openingFailure (makes : Bool) (t : Text) (cause : SystemCause) : Text :=
  let what : Text := if makes then "cannot create " else "cannot open "
  let why : Text := match cause with
    | .notFound | .notDirectory => if makes then "Directory nonexistent" else "No such file"
    | cause => cause.message
  what ++ t ++ ": " ++ why

/-- what is written goes to a file; its bytes are changed at first -/
def State.directed (s : State) (number : Nat) (t : Text) (change : Bytes → Bytes) : State :=
  if t = Scene.void then s.redirected number (some .nowhere)
  else if t = "/dev/stdout" then s.redirected number (s.targets.lookup 1)
  else if t = "/dev/stderr" then s.redirected number (s.targets.lookup 2)
  else match s.scene.written t change, s.scene.entry t with
    | .ok files, .ok (l, _) =>
      ({ s with scene := { s.scene with files } } : State).redirected number (some (.file l))
    | .error cause, _ => { s.failed (openingFailure true t cause) with flow := .leaving }
    | _, .error cause => { s.failed (openingFailure true t cause) with flow := .leaving }

/-- what is read comes from a file -/
def State.reads (s : State) (t : Text) (makes : Bool) : State :=
  if t = "/dev/stdin" then s
  else match s.scene.read t with
    | .ok bytes => { s with input := bytes }
    | .error .isDirectory => { s with input := [] }
    | .error cause =>
      if makes && cause == .notFound then { s.directed 9 t id with input := [] }
      else { s.failed (openingFailure false t cause) with flow := .leaving }

/-- a redirection; the shell leaves if it fails -/
def State.withRedirection (capture : Capture) (s : State) (r : Redirection) : State :=
  if s.flow != .on then s
  else
    let (t, s) := s.textOf capture r.target
    let is (m : String) : Bool := r.mark == m.toList
    if s.flow != .on then s
    else if is "<<" then { s with input := t.toBytes }
    else if is "<" then if r.number = 0 then s.reads t false else s
    else if is "<>" then if r.number = 0 then s.reads t true else s
    else if is ">" && s.has 'C' && s.scene.isFile t then
      { s.failed ("cannot create " ++ t ++ ": File exists") with flow := .leaving }
    else if is ">" || is ">|" then s.directed r.number t fun _ => []
    else if is ">>" then s.directed r.number t id
    else if t = ['-'] then
      if r.number = 0 then { s with input := [] } else s.redirected r.number none
    else match count? t with
      | none => { s.failed "Syntax error: Bad fd number" with flow := .leaving }
      | some n =>
        if n = 0 then s
        else match s.targets.lookup n with
          | some target => if r.number = 0 then s else s.redirected r.number (some target)
          | none => { s.failed (t ++ ": Bad file descriptor") with flow := .leaving }

/-- does a redirection change what is read? -/
def changesInput (r : Redirection) : Bool := r.number == 0

/-- a step with redirections, which do not last; if one of them fails the step is not taken, and the
shell goes on unless `ends` -/
def State.withRedirections (capture : Capture) (ends : Bool) (rs : List Redirection)
    (step : State → State) (s : State) : State :=
  let opened := rs.foldl (State.withRedirection capture) s
  let back (t : State) : State :=
    { t with targets := s.targets, input := if rs.any changesInput then s.input else t.input }
  if opened.flow = .on then back (step opened)
  else if opened.flow = .leaving && !ends then back { opened with flow := .on }
  else back opened

/-! ## programs by their names -/

/-- why a program cannot be started, and the status of that: a program that is looked for counts as not
found, unless it is to take the place of the shell -/
def startingFailure (replaces : Bool) (name : Text) (cause : SystemCause) : Text × Nat :=
  if cause = .notFound ∨ cause = .notDirectory then (name ++ ": not found", 127)
  else (name ++ ": " ++ cause.message, if replaces || name.contains '/' then 126 else 127)

/-- the first directory on the way to programs that has one of a name -/
def placeOf? (s : Scene) (name : Text) : Option Text :=
  (s.searched.map (Scene.inDirectory name)).find? fun t =>
    (Scene.programAt programNames s t).toOption.isSome

/-- what a name means, in words -/
def meaning? (s : State) (name : Text) : Option Text :=
  if reserved.contains name || (s.functions.lookup name).isSome || runningOthers.contains name
      || (command? name).isSome then some name
  else if name.contains '/' then (Scene.programAt programNames (s.sceneOf name) name).toOption.map fun _ => name
  else placeOf? (s.sceneOf name) name

/-- what a name means, in a sentence -/
def meaningLine (s : State) (name : Text) : Text :=
  if reserved.contains name then name ++ " is a shell keyword"
  else if (s.functions.lookup name).isSome then name ++ " is a shell function"
  else if special.contains name then name ++ " is a special shell builtin"
  else if runningOthers.contains name || (command? name).isSome then name ++ " is a shell builtin"
  else match meaning? s name with
    | some t => name ++ " is " ++ t
    | none => name ++ ": not found"

/-- the line that shows a command before it runs -/
def shownCommand (front : Text) (assignments : List (Text × Text)) (words : List Text) : Text :=
  front ++ Text.joined [' '] ((assignments.map fun a => a.1 ++ '=' :: a.2) ++ words) ++ ['\n']

/-! ## shells -/

/-- what a shell is asked to do: options, a script as an argument or as the input, or a file, and
arguments -/
structure Errand where
  options : Text := []
  fromArgument : Bool := false
  fromInput : Bool := false
  operands : List Text := []

/-- what arguments ask a shell for, or the option that there is not -/
def Errand.ofArguments : List Text → Errand → Except Text Errand
  | [], e => .ok e
  | a :: more, e =>
    match a with
    | ['-', '-'] => .ok { e with operands := more }
    | ['-'] => .ok { e with operands := more }
    | '-' :: letters =>
      match letters.find? fun c => !(optionLetters ++ ['c', 'o', 'l']).contains c with
      | some c => .error ['-', c]
      | none =>
        let options := letters.filter optionLetters.contains
        let e : Errand := { e with
          options := options ++ e.options, fromArgument := e.fromArgument || letters.contains 'c'
          fromInput := e.fromInput || letters.contains 's' }
        if !letters.contains 'o' then ofArguments more e
        else match more with
          | [] => .ok e
          | t :: more => match optionNames.lookup t with
            | some c => ofArguments more { e with options := c.toList ++ e.options }
            | none => .error ("-o " ++ t)
    | a => .ok { e with operands := a :: more }

/-- the state in which a shell begins -/
def State.beginning (scene : Scene) (identifier : Nat) (options : Text) (arguments : List Text)
    (input : Bytes) (limit : Binary64) : State :=
  let names := scene.environment.map (·.1)
  let s : State := {
    scene, bindings := scene.environment, exported := names, arguments, options, identifier, input, limit }
  let absent : List (Text × Text) := [("IFS", " \t\n"), ("OPTIND", "1"), ("PS1", "# "), ("PS2", "> "),
    ("PS4", "+ "), ("PWD", placeText scene.here)]
  absent.foldl (fun s v => if names.contains v.1 && v.1 != "PWD".toList then s else s.assigned v.1 v.2) s

/-- the outcome of a shell that has come to its end -/
def State.outcome (s : State) : Outcome :=
  let ending : Ending := match s.flow with
    | .killed n => .signal n
    | .never => .never
    | _ => .status s.status
  { ending, output := s.keptAt 0, errors := s.keptAt 1, left := s.input
    slept := State.later s.slept s.lasting, files := some s.scene.files }

/-! ## programs that start others -/

/-- a command that another program starts, with the environment for it and the directory it starts in,
if it is another one -/
structure Start where
  environment : List (Text × Text)
  command : List Text
  place : Option Text := none

/-- the options of the program that changes the environment -/
def environmentLetters : Letters where
  plain := "i0v"
  valued := "uCS"
  failure := 125
  words := [("ignore-environment", 'i'), ("null", '0'), ("unset", 'u'), ("chdir", 'C'),
    ("split-string", 'S'), ("debug", 'v')]

/-- variables in front of a command, given to the environment -/
def Start.ofAssignments (place : Option Text) :
    List Text → List (Text × Text) → Start
  | [], environment => ⟨environment, [], place⟩
  | t :: ts, environment =>
    if t.contains '=' then
      let (name, value) := namedValue t
      ofAssignments place ts (environment.filter (·.1 != name) ++ [(name, value.getD [])])
    else ⟨environment, t :: ts, place⟩

/-- what is asked of the program that changes the environment, or what is wrong -/
def Start.ofArguments (args : List Text) (environment : List (Text × Text)) :
    Except BadArgument Start := do
  let a ← Arguments.ofFront environmentLetters args
  let (bare, operands) := match a.operands with
    | ['-'] :: ts => (true, ts)
    | ts => (a.has 'i', ts)
  let split := ((a.value? 'S').map fun t => (Text.split ' ' t).filter (!·.isEmpty)).getD []
  let dropped := (a.options.filter (·.1 == 'u')).map (·.2)
  let kept := if bare then [] else environment.filter fun v => !dropped.contains v.1
  pure (ofAssignments (a.value? 'C') (split ++ operands) kept)

/-- the words of an input: blanks divide them, quotes and backslashes join them; each step uses up a
character -/
def inputWords (word : Option Text) : Nat → Text → List Text
  | 0, _ => word.toList
  | _ + 1, [] => word.toList
  | fuel + 1, c :: t =>
    let w := word.getD []
    if c = ' ' ∨ c = '\t' ∨ c = '\n' then word.toList ++ inputWords none fuel t
    else if c = '\'' ∨ c = '"' then
      let own := t.takeWhile (· != c)
      inputWords (some (w ++ own)) fuel (t.drop (own.length + 1))
    else if c = '\\' then inputWords (some (w ++ t.take 1)) fuel (t.drop 1)
    else inputWords (some (w ++ [c])) fuel t

/-- the commands that are made of an input -/
def commandsOfInput (a : Arguments) (input : Bytes) : List (List Text) :=
  let command := if a.operands.isEmpty then ["echo".toList] else a.operands
  let text := Text.ofBytesShowing input
  match a.value? 'I' with
  | some mark =>
    let lines := (Text.split '\n' text).map (·.dropWhile fun c => c == ' ' || c == '\t')
    (lines.filter (!·.isEmpty)).map fun l => command.map (Text.replaced mark l)
  | none =>
    let delimiter : Option Char := if a.has '0' then some '\x00'
      else (a.value? 'd').bind fun t => if t = ['\\', 'n'] then some '\n' else t.head?
    let words := match delimiter with
      | some c => Text.split c (if text.getLast? == some c then text.dropLast else text)
      | none =>
        if (a.value? 'L').isSome then (Text.split '\n' text).filter (!·.isEmpty)
        else inputWords none (text.length + 1) text
    let size := ((a.value? 'n' <|> a.value? 'L').bind count?).getD (words.length + 1)
    if words.isEmpty then if a.has 'r' then [] else [command]
    else (chunks (max size 1) words.length words).map (command ++ ·)
where
  chunks (n : Nat) : Nat → List Text → List (List Text)
    | 0, _ => []
    | _ + 1, [] => []
    | fuel + 1, ws => ws.take n :: chunks n fuel (ws.drop n)

/-- the options of the program that makes commands of an input -/
def inputLetters : Letters where
  plain := "0rtx"
  valued := "nILdPa"
  words := [("null", '0'), ("no-run-if-empty", 'r'), ("verbose", 't'), ("exit", 'x'), ("max-args", 'n'),
    ("replace", 'I'), ("max-lines", 'L'), ("delimiter", 'd'), ("max-procs", 'P'), ("arg-file", 'a')]

/-- the options of the program that sets an adjustment -/
def adjustmentLetters : Letters where
  plain := "0123456789"
  valued := "n"
  failure := 125
  words := [("adjustment", 'n')]

/-- the letter of the option that a status is kept -/
def keepingLetter : Char := '\x01'

/-- the options of the program that sets a limit of time -/
def limitLetters : Letters where
  plain := ['v', keepingLetter]
  valued := "sk"
  failure := 125
  words := [("signal", 's'), ("kill-after", 'k'), ("verbose", 'v'), ("preserve-status", keepingLetter),
    ("foreground", 'v')]

/-- the options of a program that is started with other buffers -/
def bufferLetters : Letters where
  valued := "ioe"
  words := [("input", 'i'), ("output", 'o'), ("error", 'e')]

/-- what is wrong with the way a buffer is asked for, and whether help is named: it is by lines, or a size -/
def bufferFault? (o : Char × Text) : Option (Text × Bool) :=
  if o.2 = ['L'] then
    if o.1 = 'i' then some ("line buffering stdin is meaningless", true) else none
  else if (sizeOf? o.2).isSome then none else some ("invalid mode " ++ inQuotes o.2, false)

/-- the status of commands that were made of an input: that one of them failed tells most -/
def statusOfInput (before : Nat) (o : Outcome) : Nat × Bool :=
  match o.ending with
  | .status 0 => (before, false)
  | .status 255 => (124, true)
  | .status 127 => (127, true)
  | .status 126 => (126, true)
  | .status _ => (123, false)
  | .signal _ => (125, true)
  | .never => (125, true)

/-! ## running -/

/-- how a command stands among others: on its own, or so that its failure is looked at -/
inductive Stance where
  | free
  | tested
  deriving DecidableEq

/-- a shell inside, with the traps of its own -/
def State.inner (s : State) : State := { s with traps := s.traps.filter (·.2.isEmpty) }

/-- is a number still what it was after redirections? `held` tells which ones are. -/
def stillHeld (number : Nat) (held : Nat → Bool) : List Redirection → Bool
  | [] => held number
  | r :: rs =>
    let source : Option Nat := if r.mark = ['>', '&'] then count? (bareText r.target) else none
    stillHeld number (fun n => if n = r.number then source.any held else held n) rs

/-- does a command write to files of its own only? -/
def isDetached : Command → Bool
  | .simple _ _ _ rs | .redirected _ _ rs => [1, 2].all fun n => !stillHeld n (fun _ => true) rs
  | _ => false

/-- does a word bring along what commands write? -/
def bringsOutput (w : Word) : Bool :=
  w.any fun p => match p with
    | .output _ _ => true
    | _ => false

mutual

/-- the outcome of a program by its name, and the time that is left for it -/
def startProgram : Nat → Nat → Text → Scene → List Text → Bytes → Binary64 → Outcome
  | 0, _, _, _, _, _, _ => { ending := .never }
  | fuel + 1, identifier, name, scene, args, input, limit =>
    let start (command : List Text) (scene : Scene) (input : Bytes) (failed : Text → SystemCause → Text) :
        Outcome :=
      let name := command.headD []
      match Scene.program programNames scene name with
      | .error cause =>
        let status := if cause = .notFound ∨ cause = .notDirectory then 127 else 126
        scene.complaint (failed name cause) input status
      | .ok program =>
        startProgram fuel identifier program { scene with called := name } (command.drop 1) input limit
    let plain (t : Text) (cause : SystemCause) : Text := inQuotes t ++ ": " ++ cause.message
    let failure (t : Text) (cause : SystemCause) : Text := "failed to run command " ++ plain t cause
    if shellNames.contains name then runShell fuel identifier scene args input limit
    else if name = "env".toList then
      match Start.ofArguments args scene.environment with
      | .error bad => scene.misuse bad.message input 125
      | .ok ⟨environment, [], _⟩ =>
        telling { scene with environment } (if args.contains ['-', '0'] then [['-', '0']] else []) input
      | .ok ⟨environment, command, none⟩ => start command { scene with environment } input plain
      | .ok ⟨environment, command, some place⟩ =>
        let failed (cause : SystemCause) : Outcome :=
          scene.complaint ("cannot change directory to " ++ inQuotes place ++ ": " ++ cause.message) input 125
        match scene.entry place with
        | .ok (here, some .directory) => start command { scene with environment, here } input plain
        | .ok (_, some _) => failed .notDirectory
        | .ok (_, none) => failed .notFound
        | .error cause => failed cause
    else if name = "nice".toList then
      match Arguments.ofFront adjustmentLetters args with
      | .error bad => scene.misuse bad.message input 125
      | .ok a =>
        let isNumber (t : Text) : Bool := (count? (if t.head? == some '-' then t.drop 1 else t)).isSome
        if let some t := (a.value? 'n').filter fun t => !isNumber t then
          scene.complaint ("invalid adjustment " ++ inQuotes t) input 125
        else if a.options.isEmpty && a.operands.isEmpty then leaving input [48, 10]
        else start a.operands scene input plain
    else if name = "nohup".toList then
      if args.isEmpty then scene.misuse "missing operand" input 125 else start args scene input failure
    else if name = "timeout".toList then
      let help : Text := "Try '" ++ scene.called ++ " --help' for more information.\n"
      match Arguments.ofFront limitLetters args with
      | .error bad => scene.misuse bad.message input 125
      | .ok a => match a.operands with
        | [] | [_] => { ending := .status 125, errors := help.toBytes, left := input }
        | t :: command => match seconds? t, (a.value? 's').map signalOf? with
          | none, _ => scene.misuse ("invalid time interval " ++ inQuotes t) input 125
          | _, some none => scene.misuse (inQuotes ((a.value? 's').getD []) ++ ": invalid signal") input 125
          | some time, signal =>
            let o := start command scene input failure
            let never := match o.ending with
              | .never => true
              | _ => false
            if time.isZero || !(never || (!o.slept.isZero && time.atMost o.slept)) then o
            else
              let n := (signal.bind id).getD 15
              let ending : Ending := if n = 9 then .signal 9
                else .status (if a.has keepingLetter then 128 + n else 124)
              { o with ending, slept := time }
    else if name = "stdbuf".toList then
      match Arguments.ofFront bufferLetters args with
      | .error bad => scene.misuse bad.message input 125
      | .ok a => match a.options.findSome? bufferFault? with
        | some (t, helps) => if helps then scene.misuse t input 125 else scene.complaint t input 125
        | none =>
          if a.operands.isEmpty then scene.misuse "missing operand" input 125
          else if a.options.isEmpty then
            scene.misuse "you must specify a buffering mode option" input 125
          else start a.operands scene input failure
    else if name = "setsid".toList then
      match Arguments.ofFront { plain := "cfw" } args with
      | .error bad => scene.misuse bad.message input
      | .ok a =>
        if a.operands.isEmpty then scene.misuse "no command specified" input
        else start a.operands scene input fun t cause => "failed to execute " ++ t ++ ": " ++ cause.message
    else if name = "xargs".toList then
      match Arguments.ofFront inputLetters args with
      | .error bad => scene.misuse bad.message input 1
      | .ok a =>
        let message (t : Text) (cause : SystemCause) : Text := t ++ ": " ++ cause.message
        let bytes := ((a.value? 'a').bind fun t => (scene.read t).toOption).getD input
        let (o, status, _) := (commandsOfInput a bytes).foldl (fun (o, status, stopped) command =>
          if stopped then (o, status, stopped)
          else
            let files := o.files.getD scene.files
            let shown := if a.has 't' then (Text.joined [' '] command ++ ['\n']).toBytes else []
            let next := start command { scene with files } [] message
            let next := { next with errors := shown ++ next.errors }
            let (status, stopped) := statusOfInput status next
            (o.followed next, status, stopped)) (({} : Outcome), 0, false)
        { o with ending := .status status, left := [] }
    else
      let launcher : Launcher := {
        command := fun scene command input =>
          start command scene input fun t cause => t ++ ": " ++ cause.message
        script := fun scene script input =>
          runShell fuel identifier { scene with called := "sh" } [['-', 'c'], script] input limit }
      match programBy? name, launching.lookup name with
      | some p, _ => p scene args input
      | none, some p => p launcher scene args input
      | none, none => { ending := .status 127 }

/-- the outcome of a shell -/
def runShell : Nat → Nat → Scene → List Text → Bytes → Binary64 → Outcome
  | 0, _, _, _, _, _ => { ending := .never }
  | fuel + 1, identifier, scene, args, input, limit =>
    let failed (message : Text) : Outcome :=
      { ending := .status 2, errors := remark (scene.called ++ ": 0") message, left := input }
    match Errand.ofArguments args {} with
    | .error t => failed ("Illegal option " ++ t)
    | .ok e =>
      let run (scene : Scene) (arguments : List Text) (input : Bytes) (script : Text) : Outcome :=
        let s := State.beginning scene identifier e.options arguments input limit
        (runEnd fuel (runLines fuel { rest := script } s)).outcome
      match e.fromArgument, e.operands with
      | true, [] => failed "-c requires an argument"
      | true, [script] => run scene [] input script
      | true, script :: called :: arguments => run { scene with called } arguments input script
      | false, [] => run scene [] [] (Text.ofBytesShowing input)
      | false, file :: arguments =>
        if e.fromInput then run scene e.operands [] (Text.ofBytesShowing input)
        else match scene.read file with
          | .ok bytes => run { scene with called := file } arguments input (Text.ofBytesShowing bytes)
          | .error .isDirectory => { left := input }
          | .error cause => failed (openingFailure false file cause)

/-- the lines of a script -/
def runLines : Nat → Place → State → State
  | 0, _, s => { s with flow := .never }
  | fuel + 1, p, s =>
    if p.rest.isEmpty || s.flow != .on then s
    else match readLine? p with
      | .error r => ({ s with line := r.line } : State).broken r.message
      | .ok (none, p) => runLines fuel p s
      | .ok (some c, p) =>
        runLines fuel p (evaluate fuel .free c s)

/-- what a shell does at its end -/
def runEnd : Nat → State → State
  | 0, s => s
  | fuel + 1, s =>
    match s.flow, s.traps.lookup "EXIT".toList with
    | .killed _, _ | .never, _ | _, none => s
    | _, some action =>
      let after := runLines fuel { rest := action } { s with traps := [], flow := .on }
      if after.flow = .on then after.ended s.status else after

/-- what commands write when they run in a shell inside -/
def captured : Nat → State → Text → Bytes × State
  | 0, s, _ => ([], { s with flow := .never })
  | fuel + 1, s, script =>
    let (n, inner) := s.inner.keeping
    let inner := inner.redirected 1 (some (.kept n))
    let inner := runEnd fuel (runLines fuel { rest := script, line := s.line } inner)
    let (bytes, inner) := inner.taken
    (bytes, s.resumed inner)

/-- a command in a state -/
def evaluate : Nat → Stance → Command → State → State
  | 0, _, _, s => { s with flow := .never }
  | fuel + 1, stance, c, s =>
    if s.flow != .on || s.has 'n' then s
    else
      let checked (s : State) : State :=
        if s.flow = .on && s.has 'e' && stance == .free && s.status != 0 then { s with flow := .leaving }
        else s
      match c with
      | .simple line assignments words rs =>
        checked (runSimple fuel stance assignments words rs { s with line })
      | .redirected line c rs =>
        State.withRedirections (captured fuel) false rs (evaluate fuel stance c)
          { s with line }
      | .pipeline cs => checked (runPipeline fuel cs s)
      | .inverted c =>
        let s := evaluate fuel .tested c s
        if s.flow = .on then s.ended (if s.status = 0 then 1 else 0) else s
      | .both c d =>
        let s := evaluate fuel .tested c s
        if s.flow = .on && s.status == 0 then evaluate fuel stance d s else s
      | .either c d =>
        let s := evaluate fuel .tested c s
        if s.flow = .on && s.status != 0 then evaluate fuel stance d s else s
      | .sequence c d => evaluate fuel stance d (evaluate fuel stance c s)
      | .background c =>
        let inner := runEnd fuel (evaluate fuel .free c { s.inner with input := [] })
        let after := { s.resumed inner with input := s.input, slept := s.slept }
        let lasting := if isDetached c then s.lasting else State.later inner.slept inner.lasting
        { after.ended 0 with
          lasting := State.later s.lasting lasting
          flow := if inner.flow = .never then .on else after.flow }
      | .apart c =>
        let inner := runEnd fuel (evaluate fuel stance c s.inner)
        checked (s.resumed inner)
      | .conditional test yes no =>
        let s := evaluate fuel .tested test s
        if s.flow != .on then s
        else if s.status = 0 then evaluate fuel stance yes s
        else match no with
          | some no => evaluate fuel stance no s
          | none => s.ended 0
      | .repeated wanted test body =>
        let t := runRounds fuel stance wanted test body 0 { s with loops := s.loops + 1 }
        { t with loops := s.loops }
      | .each line name words body =>
        let (values, s) := match words with
          | none => (s.arguments, s)
          | some ws => State.fieldsOf (captured fuel) ws { s with line }
        if s.flow != .on then s
        else
          let t := runEach fuel stance name values body { s.ended 0 with loops := s.loops + 1 }
          { t with loops := s.loops }
      | .choice line subject cases =>
        let (t, s) := ({ s with line } : State).textOf (captured fuel) subject
        runCases fuel stance t cases (s.ended 0)
      | .definition name body =>
        { s.ended 0 with functions := (name, body) :: s.functions.filter (·.1 != name) }

/-- the rounds of a loop; `status` is that of the last round -/
def runRounds : Nat → Stance → Bool → Command → Command → Nat → State → State
  | 0, _, _, _, _, _, s => { s with flow := .never }
  | fuel + 1, stance, wanted, test, body, status, s =>
    let t := evaluate fuel .tested test s
    match t.flow with
    | .on =>
      if (t.status == 0) != wanted then t.ended status
      else
        let u := evaluate fuel stance body t
        match u.flow with
        | .on => runRounds fuel stance wanted test body u.status u
        | .continuing 1 => runRounds fuel stance wanted test body u.status { u with flow := .on }
        | .continuing n => { u with flow := .continuing (n - 1) }
        | .breaking 1 => { u with flow := .on }
        | .breaking n => { u with flow := .breaking (n - 1) }
        | _ => u
    | .breaking 1 => { t with flow := .on }
    | _ => t

/-- the rounds of a loop over values -/
def runEach : Nat → Stance → Text → List Text → Command → State → State
  | 0, _, _, _, _, s => { s with flow := .never }
  | _ + 1, _, _, [], _, s => s
  | fuel + 1, stance, name, value :: values, body, s =>
    let u := evaluate fuel stance body (s.given name value)
    match u.flow with
    | .on => runEach fuel stance name values body u
    | .continuing 1 => runEach fuel stance name values body { u with flow := .on }
    | .continuing n => { u with flow := .continuing (n - 1) }
    | .breaking 1 => { u with flow := .on }
    | .breaking n => { u with flow := .breaking (n - 1) }
    | _ => u

/-- the first case whose pattern matches -/
def runCases : Nat → Stance → Text → List (List Word × Option Command) → State → State
  | 0, _, _, _, s => { s with flow := .never }
  | _ + 1, _, _, [], s => s
  | fuel + 1, stance, t, (patterns, body) :: more, s =>
    let (found, s) := patterns.foldl (fun (found, s) w =>
      if found || s.flow != .on then (found, s)
      else
        let (m, s) := State.markedOf s (captured fuel) w
        (isMatch m t, s)) (false, s)
    if s.flow != .on then s
    else if !found then runCases fuel stance t more s
    else match body with
      | some c => evaluate fuel stance c s
      | none => s

/-- commands of which each reads what the one before it writes -/
def runPipeline : Nat → List Command → State → State
  | 0, _, s => { s with flow := .never }
  | fuel + 1, cs, s =>
    match cs with
    | [] => s
    | [c] => s.resumed (runEnd fuel (evaluate fuel .free c s.inner))
    | c :: cs =>
      let (n, inner) := s.inner.keeping
      let inner := runEnd fuel (evaluate fuel .free c (inner.redirected 1 (some (.kept n))))
      let (bytes, inner) := inner.taken
      let after := s.resumed inner
      if after.flow != .on then after
      else
        let last := runPipeline fuel cs { after with input := bytes, slept := s.slept }
        let slept := State.later after.slept last.slept
        let flow := if last.flow = .on && s.limit.atMost slept && !slept.isZero then .never else last.flow
        { last with input := after.input, slept, flow }

/-- a simple command -/
def runSimple : Nat → Stance → List (Text × Word) → List Word → List Redirection → State → State
  | 0, _, _, _, _, s => { s with flow := .never }
  | fuel + 1, stance, assignments, words, rs, s =>
    let (fields, s) := State.commandOf (captured fuel) [] words s
    let brings := words.any bringsOutput || assignments.any fun a => bringsOutput a.2
    let valued (s : State) : List (Text × Text) × State :=
      assignments.foldl (fun (done, s) a =>
        if s.flow != .on then (done, s)
        else
          let (t, s) := s.valueOf (captured fuel) a.2
          (done ++ [(a.1, t)], if s.flow = .on then s.given a.1 t else s)) ([], s)
    let shown (values : List (Text × Text)) (s : State) : State :=
      if s.has 'x' then s.wrote 2 (shownCommand ((s.value? "PS4").getD []) values fields).toBytes else s
    if s.flow != .on then s
    else match fields with
      | [] =>
        State.withRedirections (captured fuel) false rs (fun s =>
          let (values, s) := valued s
          if s.flow != .on then s
          else
            let s := shown values s
            if brings then s else s.ended 0) s
      | name :: args =>
        let isSpecial := special.contains name && (s.functions.lookup name).isNone
        let step (s : State) : State :=
          let (values, t) := valued s
          if t.flow != .on then t
          else if isSpecial then invoke fuel stance true name args (shown values t)
          else
            let t := shown values t
            let names := values.map (·.1)
            let given := { t with exported := t.exported ++ names.filter fun n => !t.exported.contains n }
            let after := invoke fuel stance true name args given
            if names.isEmpty then after
            else
              let others := after.bindings.filter fun v => !names.contains v.1
              { after with
                bindings := others ++ s.bindings.filter fun v => names.contains v.1
                exported := s.exported }
        if name = "exec".toList && args.isEmpty then
          let opened := rs.foldl (State.withRedirection (captured fuel)) s
          if opened.flow = .on then opened.ended 0 else opened
        else State.withRedirections (captured fuel) isSpecial rs step s

/-- a command by its name; `functions` tells whether functions count -/
def invoke : Nat → Stance → Bool → Text → List Text → State → State
  | 0, _, _, _, _, s => { s with flow := .never }
  | fuel + 1, stance, functions, name, args, s =>
    match if functions then s.functions.lookup name else none with
    | some body =>
      let inner := { s with arguments := args, inFunction := true, loops := 0, outer := [], optionAt := (1, none) }
      let after := (evaluate fuel stance body inner).withOuter
      { after with
        outer := s.outer, optionAt := s.optionAt
        arguments := s.arguments, inFunction := s.inFunction, loops := s.loops
        flow := if after.flow = .returning then .on else after.flow }
    | none =>
      if name = "eval".toList then
        let inner := (s.ended 0).speaking name
        { runLines fuel { rest := Text.joined [' '] args, line := s.line } inner with speaker := s.speaker }
      else if name = ['.'] then
        let told := s.speaking name
        match args with
        | [] => s.ended 0
        | file :: _ =>
          if !file.contains '/' then told.refused name (file ++ ": not found")
          else match s.scene.read file with
            | .error cause => told.refused name (openingFailure false file cause)
            | .ok bytes =>
              let script := Text.ofBytesShowing bytes
              let after := runLines fuel { rest := script } { s.ended 0 with speaker := file }
              { after with
                line := s.line, speaker := s.speaker, flow := if after.flow = .returning then .on else after.flow }
      else if name = "exec".toList then
        let after := launch fuel true (args.headD []) (args.drop 1) { s with traps := [], speaker := name }
        { after with flow := if after.flow = .on then .leaving else after.flow }
      else if name = "type".toList then
        let s := (s.wrote 1 (Text.toBytes (args.flatMap fun n => meaningLine s n ++ ['\n'])))
        s.ended (if args.all fun n => (meaning? s n).isSome then 0 else 127)
      else if name = "hash".toList then
        args.foldl (fun s t =>
          if (meaning? s t).isSome || t == ['-', 'r'] then s
          else ((s.speaking name).failed (t ++ ": not found") 1)) (s.ended 0)
      else if name = "command".toList then
        match Arguments.ofFront { plain := "pvV" } args with
        | .error (.letter c) => (s.speaking name).failed ("Illegal option -" ++ [c])
        | .error _ => (s.speaking name).failed "Illegal option --"
        | .ok a => match a.operands with
          | [] => s.ended 0
          | name :: more =>
            let status := if (meaning? s name).isSome then 0 else 127
            if a.has 'V' then (s.wrote 1 (meaningLine s name ++ ['\n']).toBytes).ended status
            else if a.has 'v' then
              (s.wrote 1 (Text.toBytes (((meaning? s name).map (· ++ ['\n'])).getD []))).ended status
            else
              let after := invoke fuel stance false name more s
              if after.flow = .leaving && (command? name).isSome && name != "exit".toList then
                { after with flow := .on }
              else after
      else match command? name with
        | none => launch fuel false name args s
        | some own =>
          let after := { own (s.speaking name) name args with speaker := s.speaker }
          let after := if after.flow = .leaving && !special.contains name then { after with flow := .on }
            else after
          match after.flow with
          | .killed n => match after.traps.lookup (Signal.commonName n) with
            | some action =>
              if n = 9 then after
              else
                let done := runLines fuel { rest := action } { after with flow := .on }
                if done.flow = .on then done.ended after.status else done
            | none => after
          | _ => after

/-- a program that is started by its name; `replaces` tells whether it takes the place of the shell -/
def launch : Nat → Bool → Text → List Text → State → State
  | 0, _, _, _, s => { s with flow := .never }
  | fuel + 1, replaces, name, args, s =>
    let scene := s.sceneOf name
    match Scene.program programNames scene name with
    | .error cause =>
      let (message, status) := startingFailure replaces name cause
      s.failed message status
    | .ok program =>
      let identifier := if replaces then s.identifier else s.identifier + 1
      let o := startProgram fuel identifier program scene args s.input s.timeLeft
      match replaces, o.ending with
      | true, .signal n => { s.after { o with ending := .status 0 } with flow := .killed n }
      | _, _ => s.after o

end

end DatabaseTypes.Filter.Shell
