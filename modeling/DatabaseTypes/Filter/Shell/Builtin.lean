import DatabaseTypes.Filter.Condition
import DatabaseTypes.Filter.Shell.State
import DatabaseTypes.Filter.Standard

/-!
# The commands of a shell

The commands that a shell performs by itself.

* `Shell.command?`    the command of a name
-/

namespace DatabaseTypes.Filter.Shell

/-- a command of a shell: what it makes of its name, its arguments and the state -/
abbrev OwnCommand := State → Text → List Text → State

/-- a failure of a command, which ends the shell if the command is a special one -/
def State.refused (s : State) (name message : Text) (status : Nat := 2) : State :=
  if special.contains name then s.broken message status else s.failed message status

/-- the number of digits at the end of an argument, or a refusal -/
def State.withNumber (s : State) (name t : Text) (next : Nat → State) : State :=
  match count? t with
  | some n => next n
  | none => s.refused name ("Illegal number: " ++ t)

/-! ## programs inside -/

/-- the scene of a program that the shell starts by a name -/
def State.sceneOf (s : State) (called : Text) : Scene :=
  { s.scene with called, environment := s.environment }

/-- the state after a program has ended; its messages come first -/
def State.after (s : State) (o : Outcome) : State :=
  let s : State := match o.files with
    | some files => s.withFiles files
    | none => s
  let s := (({ s with input := o.left } : State).wrote 2 o.errors).wrote 1 o.output
  let s := s.waited o.slept
  match o.ending with
  | .status n => s.ended n
  | .signal n =>
    let phrase := Signal.phrase n
    (s.wrote 2 (if phrase.isEmpty then [] else (phrase ++ ['\n']).toBytes)).ended (128 + n)
  | .never => { s with flow := .never }

/-- a program that the shell performs by itself -/
def inside (p : Program) : OwnCommand := fun s name args =>
  let called := s.name ++ ": " ++ Text.ofNat s.line ++ ": " ++ name
  s.after (p (s.sceneOf called) args s.input)

/-! ## the shell itself -/

/-- leave the shell -/
def exiting : OwnCommand := fun s name args =>
  match args with
  | [] => { s with flow := .leaving }
  | t :: _ => s.withNumber name t fun n => { s with status := n % 256, flow := .leaving }

/-- return from a function -/
def returning : OwnCommand := fun s name args =>
  match args with
  | [] => { s with flow := .returning }
  | t :: _ => s.withNumber name t fun n => { s with status := n % 256, flow := .returning }

/-- leave loops, or go on with the next round of one -/
def leavingLoops (flow : Nat → Flow) : OwnCommand := fun s name args =>
  s.withNumber name (args.headD ['1']) fun n =>
    if n = 0 then s.refused name "Illegal number: 0"
    else if s.loops = 0 then s.ended 0
    else { s.ended 0 with flow := flow (min n s.loops) }

/-- drop arguments -/
def shifting : OwnCommand := fun s name args =>
  s.withNumber name (args.headD ['1']) fun n =>
    if s.arguments.length < n then s.refused name "can't shift that many"
    else { s.ended 0 with arguments := s.arguments.drop n }

/-- the options with their letters, if they have one -/
def optionNames : List (Text × Option Char) := [("errexit", some 'e'), ("noglob", some 'f'),
  ("ignoreeof", some 'I'), ("interactive", some 'i'), ("monitor", some 'm'), ("noexec", some 'n'),
  ("stdin", some 's'), ("xtrace", some 'x'), ("verbose", some 'v'), ("vi", some 'V'), ("emacs", some 'E'),
  ("noclobber", some 'C'), ("allexport", some 'a'), ("notify", some 'b'), ("nounset", some 'u'),
  ("nolog", none), ("debug", none)]

/-- the letters of options -/
def optionLetters : Text := optionNames.filterMap (·.2)

/-- options set or unset -/
def State.withOption (s : State) (sets : Bool) (c : Char) : State :=
  let others := s.options.filter (· != c)
  { s with options := if sets then c :: others else others }

/-- the options in words, as they can be read again or for a reader -/
def State.optionLines (s : State) (again : Bool) : Text :=
  let isOn (o : Text × Option Char) : Bool := o.2.any s.options.contains
  if again then optionNames.flatMap fun o =>
    "set " ++ (if isOn o then "-o " else "+o ").toList ++ o.1 ++ ['\n']
  else "Current option settings\n" ++ optionNames.flatMap fun o =>
    o.1 ++ Text.spaces (16 - o.1.length) ++ (if isOn o then "on\n" else "off\n").toList

/-- a value between quotes, as the shell reads it -/
def valueText (t : Text) : Text := ['\''] ++ Text.replaced ['\''] "'\"'\"'" t ++ ['\'']

/-- set options by letters, of which one takes a name from the arguments; the arguments that are left -/
def settingLetters (name : Text) (sign : Char) : Text → List Text → State → State × List Text
  | [], args, s => (s, args)
  | 'o' :: letters, args, s =>
    match args with
    | [] => settingLetters name sign letters [] (s.wrote 1 (s.optionLines (sign == '+')).toBytes)
    | t :: args => match optionNames.lookup t with
      | none => (s.refused name ("Illegal option -o " ++ t), [])
      | some c =>
        settingLetters name sign letters args ((c.map (s.withOption (sign == '-'))).getD s)
  | c :: letters, args, s =>
    if optionLetters.contains c then settingLetters name sign letters args (s.withOption (sign == '-') c)
    else (s.refused name ("Illegal option -" ++ [c]), [])

/-- set options and arguments; each step uses up an argument -/
def settingFrom (name : Text) : Nat → List Text → State → State
  | 0, _, s => s
  | _, [], s => s.ended 0
  | fuel + 1, a :: more, s =>
    match a with
    | ['-', '-'] => { s.ended 0 with arguments := more }
    | ['-'] =>
      let s := (s.withOption false 'x').withOption false 'v'
      if more.isEmpty then s.ended 0 else { s.ended 0 with arguments := more }
    | sign :: letters =>
      if sign != '-' && sign != '+' then { s.ended 0 with arguments := a :: more }
      else
        let (s, more) := settingLetters name sign letters more s
        if s.flow != .on then s else settingFrom name fuel more s
    | [] => { s.ended 0 with arguments := a :: more }

/-- set options and arguments, or write all variables -/
def setting : OwnCommand := fun s name args =>
  if args.isEmpty then
    let sorted := s.bindings.mergeSort fun v w => v.1.atMost w.1
    (s.wrote 1 (Text.toBytes (sorted.flatMap fun v => v.1 ++ ['='] ++ valueText v.2 ++ ['\n']))).ended 0
  else settingFrom name (args.length + 1) args s

/-! ## variables -/

/-- the name and the value of an argument, which may have none -/
def namedValue (t : Text) : Text × Option Text :=
  let name := t.takeWhile (· != '=')
  (name, if name.length < t.length then some (t.drop (name.length + 1)) else none)

/-- mark variables, and perhaps give them values -/
def marking (mark : State → Text → State) (marked : State → List Text) : OwnCommand := fun s name args =>
  let names := args.filter (· != ['-', 'p'])
  if names.isEmpty then
    let shown := (s.bindings.filter fun v => (marked s).contains v.1).mergeSort fun v w => v.1.atMost w.1
    let line (v : Text × Text) : Text := name ++ ' ' :: v.1 ++ ['='] ++ valueText v.2 ++ ['\n']
    (s.wrote 1 (Text.toBytes (shown.flatMap line))).ended 0
  else names.foldl (fun s t =>
    if s.flow != .on then s
    else
      let (own, value) := namedValue t
      if !isName own then s.broken (own ++ ": bad variable name")
      else mark ((value.map (s.given own)).getD s) own) (s.ended 0)

/-- give variables to other programs -/
def exporting : OwnCommand := marking State.exporting (·.exported)

/-- fix variables -/
def fixing : OwnCommand :=
  marking (fun s v => { s with fixed := if s.fixed.contains v then s.fixed else s.fixed ++ [v] }) (·.fixed)

/-- make variables of a function's own -/
def localising : OwnCommand := fun s _ args =>
  if !s.inFunction then s.broken "not in a function"
  else args.foldl (fun s t =>
    let (own, value) := namedValue t
    if s.flow != .on then s
    else if !isName own then s.broken (own ++ ": bad variable name")
    else
      let s := s.localised own
      (value.map (s.given own)).getD s) (s.ended 0)

/-- take variables or functions away -/
def clearingNames : OwnCommand := fun s _ args =>
  let ofFunctions := args.head? == some ['-', 'f']
  let names := args.filter fun a => a != ['-', 'f'] && a != ['-', 'v']
  names.foldl (fun s t =>
    if s.flow != .on then s
    else if ofFunctions then { s with functions := s.functions.filter (·.1 != t) }
    else if !isName t then s.broken (t ++ ": bad variable name")
    else if s.fixed.contains t then s.broken (t ++ ": is read only")
    else s.cleared t) (s.ended 0)

/-! ## places -/

/-- a location in words -/
def placeText (l : Location) : Text := '/' :: Text.joined ['/'] l

/-- go to a directory -/
def going : OwnCommand := fun s name args =>
  let args := args.filter fun a => a != "-L".toList && a != "-P".toList && a != "--".toList
  let back := args.head? == some ['-']
  let home : Option Text := s.value? "HOME"
  let target : Text := if back then (s.value? "OLDPWD").getD [] else (args.head? <|> home).getD []
  if target.isEmpty then s.ended 0
  else
    let scene : Scene := { s.scene with files := Scene.withUsualPlaces s.scene.files }
    let simple := (Path.ofText target).under ⟨1, s.scene.here⟩ |>.simplified
    match scene.entry target, scene.files.find? simple.parts with
    | .ok (_, some .directory), some .directory =>
      let old := placeText s.scene.here
      let new := placeText simple.parts
      let s := (({ s with scene := { s.scene with here := simple.parts } } : State).assigned "OLDPWD" old)
      let s := s.assigned "PWD" new
      (if back then s.wrote 1 (new ++ ['\n']).toBytes else s).ended 0
    | _, _ => s.refused name ("can't cd to " ++ target)

/-! ## reading -/

/-- a line at the front of bytes without its line feed, what follows it, and whether it had one -/
def lineAhead (bs : Bytes) : Bytes × Bytes × Bool :=
  let own := bs.takeWhile (· != 10)
  let rest := bs.drop own.length
  (own, rest.drop 1, !rest.isEmpty)

/-- a line in which a backslash joins it to the next one or quotes a character; `quoted` tells
whether a backslash was right before -/
def joinedLine (quoted : Bool) : Bytes → List (Bool × Char) × Bytes × Bool
  | [] => ([], [], false)
  | b :: bs =>
    if !quoted && b = 92 then joinedLine true bs
    else if b = 10 then (if quoted then joinedLine false bs else ([], bs, true))
    else
      let (t, rest, ended) := joinedLine false bs
      ((quoted, Char.ofNat b.toNat) :: t, rest, ended)

/-- the values of names from a line: a field for each, and the rest of the line for the last -/
def fieldsFor (separators : Text) : Nat → List (Bool × Char) → List Text
  | 0, _ => []
  | n + 1, t =>
    let isWhite (x : Bool × Char) : Bool :=
      !x.1 && separators.contains x.2 && (x.2 == ' ' || x.2 == '\t' || x.2 == '\n')
    let isEdge (x : Bool × Char) : Bool := !x.1 && separators.contains x.2
    let t := t.dropWhile isWhite
    if n = 0 then
      let bare := (t.reverse.dropWhile isWhite).reverse
      let single := bare.dropLast.any isEdge
      [(if !single && bare.getLast?.any isEdge then bare.dropLast else bare).map (·.2)]
    else
      let own := t.takeWhile fun x => !isEdge x
      let rest := (t.drop own.length).dropWhile isWhite
      let rest := if (t.drop own.length).head?.any isWhite || own.length = t.length then
          (if rest.head?.any isEdge then rest.drop 1 else rest)
        else (t.drop (own.length + 1))
      own.map (·.2) :: fieldsFor separators n rest

/-- read a line into variables -/
def reading : OwnCommand := fun s name args =>
  match Arguments.ofFront { plain := ['r'], valued := ['p'] } args with
  | .error (.letter c) => s.refused name ("Illegal option -" ++ [c])
  | .error (.noValue c) => s.refused name ("No arg for -" ++ [c] ++ " option")
  | .error _ => s.refused name "Illegal option --"
  | .ok a =>
    if let some t := a.operands.find? fun t => !isName t then s.refused name (t ++ ": bad variable name")
    else if a.operands.isEmpty then s.refused name "arg count"
    else
      let (line, rest, ended) : List (Bool × Char) × Bytes × Bool :=
        if a.has 'r' then
          let (own, rest, ended) := lineAhead s.input
          ((asText own).map fun c => (false, c), rest, ended)
        else joinedLine false s.input
      let values := fieldsFor ((s.value? "IFS").getD " \t\n") a.operands.length line
      let s := (a.operands.zip (values ++ a.operands.map fun _ => [])).foldl
        (fun s (v : Text × Text) => s.given v.1 (Text.ofBytesShowing (asBytes v.2)))
        ({ s with input := rest } : State)
      if s.flow != .on then s else s.ended (if ended then 0 else 1)

/-! ## options of a script -/

/-- the next option among arguments: the state, in which the name of a variable has a letter -/
def nextOption : OwnCommand := fun s name args =>
  match args with
  | letters :: target :: given =>
    let words := if given.isEmpty then s.arguments else given
    let (index, offset) := s.optionAt
    let silent := letters.head? == some ':'
    let ended (s : State) (index : Nat) (offset : Option Nat) (c : Char) (status : Nat) : State :=
      let s := (s.given "OPTIND" (Text.ofNat index)).given target [c]
      { s with optionAt := (index, offset), status }
    let current := (offset.bind fun n => (words[index - 2]?).map (·.drop n)).filter fun t => !t.isEmpty
    let word? : Option (Text × Nat) := match current with
      | some t => some (t, index)
      | none => match words[index - 1]? with
        | some ('-' :: c :: t) => some (c :: t, index + 1)
        | _ => none
    match word? with
    | none => ended s index none '?' 1
    | some (['-'], next) | some ([], next) => ended s next none '?' 1
    | some (c :: t, next) =>
      let left : Option Nat := if t.isEmpty then none
        else (words[next - 2]?).map fun w => w.length - t.length
      let known := if c = ':' then none else
        letters.idxOf? c |>.map fun i => letters[i + 1]? == some ':'
      match known with
      | none =>
        let s := if silent then s.given "OPTARG" [c]
          else (s.wrote 2 (Text.toBytes ("Illegal option -" ++ [c, '\n']))).cleared "OPTARG"
        ended s next left '?' 0
      | some false => ended (s.given "OPTARG" []) next left c 0
      | some true =>
        if !t.isEmpty then ended (s.given "OPTARG" t) next none c 0
        else match words[next - 1]? with
          | some value => ended (s.given "OPTARG" value) (next + 1) none c 0
          | none =>
            if silent then ended (s.given "OPTARG" [c]) next none ':' 0
            else ended ((s.wrote 2 (Text.toBytes ("No arg for -" ++ [c] ++ " option\n"))).cleared "OPTARG")
              next none '?' 0
  | _ => s.refused name "Usage: getopts optstring var [arg...]"

/-! ## signals -/

/-- the number of a signal in words -/
def signalOf? (t : Text) : Option Nat :=
  match count? t with
  | some n => if n ≤ Signal.greatest then some n else none
  | none => Signal.ofCommonName? (t.map Char.toUpper)

/-- the shell is sent a signal: a trap is kept in the flow of the one who looks for it -/
def State.signalled (s : State) (n : Nat) : State :=
  if n = 0 || Signal.isHarmless n then s
  else if Signal.isStop n then { s with flow := .never }
  else { s with flow := .killed n }

/-- the use of the command that sends signals -/
def signalUse : Text :=
  "Usage: kill [-s sigspec | -signum | -sigspec] [pid | job]... or\nkill -l [exitstatus]"

/-- which signal arguments ask for, and to whom it goes; or what is wrong with them -/
def signalAsked : List Text → Except Text (Nat × List Text)
  | [] => .error signalUse
  | ['-', '-'] :: more => if more.isEmpty then .error signalUse else .ok (15, more)
  | ['-', 's'] :: [] => .error "No arg for -s option"
  | ['-', 's'] :: t :: more =>
    match signalOf? t with
    | none => .error ("invalid signal number or name: " ++ t)
    | some n => if more.isEmpty then .error signalUse else .ok (n, more)
  | ('-' :: c :: cs) :: more =>
    match signalOf? (c :: cs) with
    | none => .error ("Illegal option -" ++ [c])
    | some n => if more.isEmpty then .error signalUse else .ok (n, more)
  | ts => .ok (15, ts)

/-- the names of all signals, or of some -/
def signalNames (args : List Text) : Except Text Text :=
  let nameOf (n : Nat) : Text := if n = 0 then ['0'] else Signal.commonName n
  match args with
  | [] => .ok ((List.range (Signal.greatest + 1)).flatMap fun n => nameOf n ++ ['\n'])
  | t :: _ => match count? t with
    | none => .error ("Illegal number: " ++ t)
    | some n =>
      let n := if 128 < n then n - 128 else n
      if Signal.greatest < n then .error ("invalid signal number or exit status: " ++ t)
      else .ok (nameOf n ++ ['\n'])

/-- send a signal to programs by their numbers, up to the first one that is no number -/
def State.signalling (name : Text) (n : Nat) : List Text → State → State
  | [], s => s
  | t :: ts, s =>
    let digits := if t.head? = some '-' then t.drop 1 else t
    if s.flow != .on then s
    else if t.head? = some '%' then s.refused name ("No such job: " ++ t)
    else match count? digits with
      | none => s.refused name ("Illegal number: " ++ digits)
      | some m =>
        if m = s.identifier || m == 0 then signalling name n ts (s.signalled n)
        else signalling name n ts (s.refused name "No such process\n" 1)

/-- send a signal, or name signals -/
def sendingSignals : OwnCommand := fun s name args =>
  match args with
  | ['-', 'l'] :: more => match signalNames more with
    | .ok t => (s.wrote 1 t.toBytes).ended 0
    | .error t => s.refused name t
  | args => match signalAsked args with
    | .error t => s.refused name t
    | .ok (n, ts) => (s.ended 0).signalling name n ts

/-- say what is to be done at a signal or at the end -/
def trapping : OwnCommand := fun s name args =>
  let nameOf? (t : Text) : Option Text :=
    if t = ['0'] ∨ t.map Char.toUpper = "EXIT".toList then some "EXIT"
    else (signalOf? t).map Signal.commonName
  let args := args.filter (· != "--".toList)
  match args with
  | [] =>
    let line (e : Text × Text) : Text := "trap -- " ++ valueText e.2 ++ ' ' :: e.1 ++ ['\n']
    (s.wrote 1 (Text.toBytes (s.traps.flatMap line))).ended 0
  | action :: ts =>
    let (action, ts) : Option Text × List Text :=
      if ts.isEmpty then (none, [action])
      else if action = ['-'] ∨ (count? action).isSome then
        (none, if action = ['-'] then ts else action :: ts)
      else (some action, ts)
    ts.foldl (fun s t =>
      if s.flow != .on then s
      else match nameOf? t with
        | none => (s.wrote 2 (remark name (t ++ ": bad trap"))).ended 1
        | some n =>
          let others := s.traps.filter (·.1 != n)
          { s with traps := others ++ (action.map fun a => (n, a)).toList }) (s.ended 0)

/-! ## the rest -/

/-- wait for what runs in the background -/
def waiting : OwnCommand := fun s name args =>
  match args with
  | [] =>
    let s := s.ended 0
    { s with
      slept := State.later s.slept s.lasting
      flow := if !s.lasting.isZero && s.limit.atMost s.lasting then .never else s.flow }
  | t :: _ => s.withNumber name t fun _ => s.ended 127

/-- write or set the mask of new files -/
def masking : OwnCommand := fun s name args =>
  match args with
  | [] => (s.wrote 1 (s.mask ++ ['\n']).toBytes).ended 0
  | t :: _ =>
    if !t.all Text.isDigit then s.ended 0
    else if t.any (fun c => c == '8' || c == '9') then s.refused name ("Illegal number: " ++ t)
    else { s.ended 0 with mask := Text.zeroPadded 4 t }

/-- name commands otherwise, or write such names -/
def naming : OwnCommand := fun s name args =>
  let line (a : Text × Text) : Text := a.1 ++ ['='] ++ valueText a.2 ++ ['\n']
  if args.isEmpty then (s.wrote 1 (Text.toBytes (s.aliases.flatMap line))).ended 0
  else args.foldl (fun s t => match namedValue t with
    | (own, some value) => { s with aliases := (own, value) :: s.aliases.filter (·.1 != own) }
    | (own, none) => match s.aliases.lookup own with
      | some value => s.wrote 1 (line (own, value)).toBytes
      | none => (s.wrote 2 (remark name (own ++ " not found"))).ended 1) (s.ended 0)

/-- drop other names of commands -/
def unnaming : OwnCommand := fun s name args =>
  if args.head? = some ['-', 'a'] then { s.ended 0 with aliases := [] }
  else args.foldl (fun s t =>
    if (s.aliases.lookup t).isSome then { s with aliases := s.aliases.filter (·.1 != t) }
    else (s.wrote 2 (remark name (t ++ " not found"))).ended 1) (s.ended 0)

/-- the commands that answer or write -/
def answering : List (Text × OwnCommand) := [
  (":", fun s _ _ => s.ended 0), ("true", fun s _ _ => s.ended 0), ("false", fun s _ _ => s.ended 1),
  ("echo", inside (echoing .shell)), ("printf", inside (printing .shell)),
  ("test", inside (testing .shell)), ("[", inside (testingBracketed .shell)), ("pwd", inside (placing .shell)),
  ("read", reading), ("cd", going), ("chdir", going), ("getopts", nextOption),
  ("alias", naming), ("unalias", unnaming)]

/-- the commands that steer the shell -/
def steering : List (Text × OwnCommand) := [
  ("exit", exiting), ("return", returning), ("break", leavingLoops .breaking),
  ("continue", leavingLoops .continuing), ("shift", shifting), ("set", setting),
  ("export", exporting), ("readonly", fixing), ("local", localising), ("unset", clearingNames),
  ("kill", sendingSignals), ("trap", trapping), ("wait", waiting), ("umask", masking)]

/-- the commands that have nothing to do here -/
def idle : List (Text × OwnCommand) :=
  (["jobs", "times", "ulimit"].map fun name => (name.toList, fun s _ _ => s.ended 0))
    ++ ["fg", "bg"].map fun name => (name.toList, fun s name _ => s.refused name "No current job")

/-- the commands that a shell performs by itself, but for those that run others -/
def ownCommands : List (Text × OwnCommand) := answering ++ steering ++ idle

/-- the names of the commands that run others -/
def runningOthers : List Text := ["eval", ".", "exec", "command", "type", "hash"]

/-- the command of a name -/
def command? (name : Text) : Option OwnCommand := ownCommands.lookup name

end DatabaseTypes.Filter.Shell
