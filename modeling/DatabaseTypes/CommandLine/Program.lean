import DatabaseTypes.CommandLine.Generate

/-!
# The program

* `CommandLine.perform`    a command with its arguments
* `CommandLine.start`      the program with its arguments, up to the requests that it is to answer
* `CommandLine.run`        the program with its arguments and its input
-/

namespace DatabaseTypes.CommandLine

/-- what is left to do after the arguments -/
inductive Rest where
  /-- nothing: the program ends with a status -/
  | finished (status : Nat)
  /-- to answer the requests in the input -/
  | requests
  deriving DecidableEq

/-! ## ends -/

/-- write to the output, and end with success -/
def tell (t : Text) : Action Rest := do
  modify fun s => { s with output := s.output ++ t }
  pure (.finished 0)

/-- write among the messages, and end as a misuse does -/
def complain (t : Text) : Action Rest := do
  modify fun s => s.complained t
  pure (.finished 2)

/-- refuse arguments -/
def refuse (p : Place) (m : Misuse) : Action Rest := complain (p.refusal m)

/-! ## commands -/

/-- the only option of the command that serves -/
def helpOnly : List (Named Unit) := [{ name := "--help", meaning := () }]

/-- generate as the arguments say -/
def performGenerate (args : List Text) (verbose : Bool) : Action Rest := do
  let place := Place.command .generate
  match parsed Generate.names true args with
  | .error m => refuse place m
  | .ok g =>
    if g.options.any (·.1 == .help) then tell place.help
    else match ← (Generate.arguments g).run with
      | .error m => refuse place m
      | .ok a => do pure (.finished (← Generate.perform a verbose))

/-- go on to the requests, if the arguments allow it -/
def performPlugin (args : List Text) : Action Rest := do
  let place := Place.command .plugin
  match parsed helpOnly true args with
  | .error m => refuse place m
  | .ok g =>
    if !g.options.isEmpty then tell place.help
    else if !g.arguments.isEmpty then refuse place (.moreArguments g.arguments)
    else pure .requests

/-- a command with its arguments -/
def perform (c : Command) (args : List Text) (verbose : Bool) : Action Rest :=
  match c with
  | .generate => performGenerate args verbose
  | .plugin => performPlugin args

/-! ## the program -/

/-- the options of the program -/
inductive ProgramOption where
  | verbose
  | version
  | help
  deriving DecidableEq

/-- the names of the options of the program -/
def programNames : List (Named ProgramOption) := [
  { name := "--verbose", meaning := .verbose }, { name := "-v", meaning := .verbose },
  { name := "--version", meaning := .version }, { name := "--help", meaning := .help }]

/-- what the program does before any command, if its options end it: the first of them that asks for
the version or for help counts, and a misuse counts most -/
def early? (args : List Text) : Option (Action Rest) :=
  match parsed programNames false args with
  | .error m => some (refuse .program m)
  | .ok g => (g.options.find? fun o => o.1 != .verbose).map fun o =>
    match o.1 with
    | .version => tell (CommandLine.program ++ ", version " ++ version ++ ['\n'])
    | _ => tell Place.program.help

/-- may a text be an option? -/
def looksLikeOption : Text → Bool
  | [] => false
  | c :: _ => !(Text.isLetter c || Text.isDigit c)

/-- the program after its own options -/
def performNamed (verbose : Bool) : List Text → Action Rest
  | [] => refuse .program .noCommand
  | name :: args =>
    match Command.ofName? name with
    | some c => do
      Action.openLog (.simple (if verbose then .debug else .warning))
      perform c args verbose
    | none =>
      let near := name.nearest (Command.all.map Command.name)
      let unknown := refuse .program (.unknownCommand name near)
      if looksLikeOption name then (early? (name :: args)).getD unknown else unknown

/-- the program with its arguments -/
def start (args : List Text) : Action Rest :=
  if args.isEmpty then complain Place.program.help
  else match early? args, parsed programNames false args with
    | some a, _ => a
    | none, .ok g => performNamed (g.options.any (·.1 == .verbose)) g.arguments
    | none, .error m => refuse .program m

/-- the program with its arguments and its input; the result is the status at its end -/
def run (args : List Text) (input : Text) : Action Nat := do
  match ← start args with
  | .finished n => pure n
  | .requests =>
    Service.serve none Service.replyOnErrors input.newlinesUnified
    pure 0

end DatabaseTypes.CommandLine
