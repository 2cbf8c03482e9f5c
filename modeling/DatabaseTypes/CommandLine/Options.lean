import DatabaseTypes.Text.Likeness
import DatabaseTypes.Text.Printable

/-!
# Options

An option has a name of one dash and a letter, or of two dashes and a word.  Letters can share a dash,
and a value follows its option at once or as the next argument.

* `CommandLine.Command`    the commands
* `CommandLine.Misuse`     what is wrong with arguments
* `CommandLine.Place`      where arguments are given: to the program, or to a command
* `CommandLine.Place.help`, `CommandLine.Place.refusal`   what is written about it
* `CommandLine.Named`      a name of an option with what it means
* `CommandLine.Given`      the options that are given in their order, and the other arguments
* `CommandLine.parsed`     the options among arguments
-/

namespace DatabaseTypes.CommandLine

/-! ## usage -/

/-- the name of the program -/
def program : Text := "supatypes"

/-- the version of the program -/
def version : Text := "0.1.0"

/-- the commands -/
inductive Command where
  | generate
  | plugin
  deriving DecidableEq

/-- the name of a command -/
def Command.name : Command → Text
  | .generate => "generate"
  | .plugin => "plugin"

/-- all commands -/
def Command.all : List Command := [.generate, .plugin]

/-- the command of a name -/
def Command.ofName? (name : Text) : Option Command := Command.all.find? (·.name == name)

/-- where arguments are given: to the program, or to one of its commands -/
inductive Place where
  | program
  | command (c : Command)
  deriving DecidableEq

/-! ## help -/

/-- lines of text, each with its end -/
def written (lines : List String) : Text := lines.flatMap fun l => l.toList ++ ['\n']

namespace Place

/-- the words that lead to a place -/
def path : Place → Text
  | .program => CommandLine.program
  | .command c => CommandLine.program ++ [' '] ++ c.name

/-- the arguments that a place takes -/
def arguments : Place → Text
  | .program => "[OPTIONS] COMMAND [ARGS]..."
  | .command .generate => "[OPTIONS] MODEL"
  | .command .plugin => "[OPTIONS]"

/-- the line that shows the use of a place -/
def usage (p : Place) : Text := "Usage: " ++ p.path ++ [' '] ++ p.arguments

/-- what there is to say about a place -/
def description : Place → Text
  | .program => written [
    "  supatypes - Supabase Database types from a Prisma schema.",
    "",
    "Options:",
    "  --version      Show the version and exit.",
    "  -v, --verbose  Enable debug logging",
    "  --help         Show this message and exit.",
    "",
    "Commands:",
    "  generate  Generate Supabase Database types.",
    "  plugin    Run as a Prisma generator (JSON-RPC over stdin/stderr)."]
  | .command .generate => written [
    "  Generate Supabase Database types.",
    "",
    "  MODEL is a Prisma DMMF JSON document, or just its datamodel.",
    "",
    "Options:",
    "  -o, --output FILE       Destination file (overrides generator.output)",
    "  --docs / --no-docs      Render doc comments from the model",
    "  --format / --no-format  Run the formatting pass",
    "  --project DIRECTORY     Project root holding supatypes.yaml (default: current",
    "                          directory)",
    "  --help                  Show this message and exit."]
  | .command .plugin => written [
    "  Run as a Prisma generator (JSON-RPC over stdin/stderr).",
    "",
    "Options:",
    "  --help  Show this message and exit."]

/-- the help on a place -/
def help (p : Place) : Text := p.usage ++ ['\n', '\n'] ++ p.description

end Place

/-! ## misuse -/

/-- what a path must mean -/
inductive Kind where
  | file
  | directory
  deriving DecidableEq

/-- the name of a kind -/
def Kind.name : Kind → Text
  | .file => "File"
  | .directory => "Directory"

/-- the other kind in words -/
def Kind.otherwise : Kind → Text
  | .file => "is a directory"
  | .directory => "is a file"

/-- what is wrong with arguments -/
inductive Misuse where
  /-- an option that there is not, with the options that may be meant -/
  | unknownOption (name : Text) (near : List Text)
  | noValue (option : Text)
  | unwantedValue (option : Text)
  /-- a command that there is not, with the commands that may be meant -/
  | unknownCommand (name : Text) (near : List Text)
  | noCommand
  | noArgument (name : Text)
  | moreArguments (arguments : List Text)
  /-- a path that means nothing -/
  | noSuchPath (parameter : Text) (kind : Kind) (path : Text)
  /-- a path that means something of the other kind -/
  | otherKind (parameter : Text) (kind : Kind) (path : Text)
  deriving DecidableEq

/-- the question for what may be meant -/
def suggestion : List Text → Text
  | [] => []
  | [t] => " Did you mean " ++ t.quoted ++ "?"
  | ts => " (Did you mean one of: " ++ Text.joined ", " (ts.map Text.quoted) ++ "?)"

/-- the misuse in words -/
def Misuse.message : Misuse → Text
  | .unknownOption name near => "No such option " ++ name.quoted ++ "." ++ suggestion near
  | .noValue option => "Option " ++ option.quoted ++ " requires an argument."
  | .unwantedValue option => "Option " ++ option.quoted ++ " does not take a value."
  | .unknownCommand name near => "No such command " ++ name.quoted ++ "." ++ suggestion near
  | .noCommand => "Missing command."
  | .noArgument name => "Missing argument '" ++ name ++ "'."
  | .moreArguments [a] => "Got unexpected extra argument (" ++ a ++ ")"
  | .moreArguments as => "Got unexpected extra arguments (" ++ Text.joined [' '] as ++ ")"
  | .noSuchPath parameter kind path =>
    "Invalid value for " ++ parameter ++ ": " ++ kind.name ++ [' '] ++ path.quoted ++ " does not exist."
  | .otherKind parameter kind path =>
    "Invalid value for " ++ parameter ++ ": " ++ kind.name ++ [' '] ++ path.quoted ++ [' ']
      ++ kind.otherwise ++ "."

/-- is the misuse told without showing the use? So it is with the value of an option. -/
def Misuse.isBrief : Misuse → Bool
  | .noValue _ | .unwantedValue _ => true
  | _ => false

/-- what is written about a misuse -/
def Place.refusal (p : Place) (m : Misuse) : Text :=
  let use : Text :=
    if m.isBrief then []
    else p.usage ++ "\nTry '" ++ p.path ++ " --help' for help.\n\n"
  use ++ "Error: " ++ m.message ++ ['\n']

/-! ## options -/

/-- a name of an option, what it means, and whether it has a value -/
structure Named (α : Type) where
  name : Text
  meaning : α
  takesValue : Bool := false

/-- the options that are given in their order with their values, and the other arguments -/
structure Given (α : Type) where
  options : List (α × Option Text) := []
  arguments : List Text := []

variable {α : Type}

/-- the option of a name -/
def named? (names : List (Named α)) (name : Text) : Option (Named α) :=
  names.find? (·.name == name)

/-- the options of letters after a dash, and the arguments that are left: an option with a value
takes the letters after it, or the next argument -/
def letters (names : List (Named α)) :
    Text → List Text → Except Misuse (List (α × Option Text) × List Text)
  | [], args => .ok ([], args)
  | c :: cs, args =>
    match named? names ['-', c] with
    | none => .error (.unknownOption ['-', c] [])
    | some o =>
      if !o.takesValue then (letters names cs args).map fun r => ((o.meaning, none) :: r.1, r.2)
      else if !cs.isEmpty then .ok ([(o.meaning, some cs)], args)
      else match args with
        | [] => .error (.noValue o.name)
        | v :: args => .ok ([(o.meaning, some v)], args)

/-- a word after two dashes, up to an equals sign, and the value after it -/
def splitWord (arg : Text) : Text × Option Text :=
  let name := arg.takeWhile (· != '=')
  match arg.dropWhile (· != '=') with
  | [] => (name, none)
  | _ :: value => (name, some value)

/-- the names of two dashes and a word -/
def longNames (names : List (Named α)) : List Text :=
  (names.map (·.name)).filter (Text.startsWith ['-', '-'])

/-- the option of a word after two dashes, and the arguments that are left -/
def word (names : List (Named α)) (arg : Text) (args : List Text) :
    Except Misuse (List (α × Option Text) × List Text) :=
  let (name, value) := splitWord arg
  match named? names name with
  | none => .error (.unknownOption name (name.nearest (longNames names)))
  | some o =>
    match o.takesValue, value, args with
    | false, none, _ => .ok ([(o.meaning, none)], args)
    | false, some _, _ => .error (.unwantedValue name)
    | true, some v, _ => .ok ([(o.meaning, some v)], args)
    | true, none, v :: args => .ok ([(o.meaning, some v)], args)
    | true, none, [] => .error (.noValue name)

/-- the options among arguments; `mixed` says whether options may follow other arguments -/
def parsedFrom (names : List (Named α)) (mixed : Bool) :
    Nat → Given α → List Text → Except Misuse (Given α)
  | 0, g, _ => .ok g
  | _ + 1, g, [] => .ok g
  | fuel + 1, g, arg :: args =>
    let further (r : List (α × Option Text) × List Text) : Except Misuse (Given α) :=
      parsedFrom names mixed fuel { g with options := g.options ++ r.1 } r.2
    match arg with
    | ['-', '-'] => .ok { g with arguments := g.arguments ++ args }
    | '-' :: '-' :: _ => (word names arg args).bind further
    | '-' :: c :: cs => (letters names (c :: cs) args).bind further
    | _ =>
      if mixed then parsedFrom names mixed fuel { g with arguments := g.arguments ++ [arg] } args
      else .ok { g with arguments := arg :: args }

/-- the options among arguments -/
def parsed (names : List (Named α)) (mixed : Bool) (args : List Text) : Except Misuse (Given α) :=
  parsedFrom names mixed (args.length + 1) {} args

/-- the value of an option, the last one if it is given several times -/
def Given.value? [BEq α] (g : Given α) (o : α) : Option Text :=
  (g.options.reverse.find? (·.1 == o)).bind (·.2)

end DatabaseTypes.CommandLine
