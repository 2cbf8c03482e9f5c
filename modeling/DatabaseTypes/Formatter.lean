import DatabaseTypes.Json.Writer
import DatabaseTypes.Session
import DatabaseTypes.Signal
import DatabaseTypes.Text.Lines

/-!
# The formatting pass

A formatter is a program that reads the output and writes it again.  Its text is taken if it ends
with success and has written something; otherwise the built-in style is used.  It may change files.

* `Style.tidied`    no white space at the end of a line, and exactly one line feed at the end
* `Formatter.Failure`     why a formatter gives nothing
* `Formatter.result`      what a run of the formatter gives
* `Formatter.formatted`   the output after the formatting pass
-/

namespace DatabaseTypes.Style

/-- lines without the empty ones at the end -/
def withoutEmptyEnd (ls : List Text) : List Text :=
  (ls.reverse.dropWhile List.isEmpty).reverse

/-- the text with every line trimmed at its end, without empty lines at the end, and with one line
feed after the last line -/
def tidied (t : Text) : Text :=
  Text.joined ['\n'] (withoutEmptyEnd (t.lines.map Text.trimEnd)) ++ ['\n']

end DatabaseTypes.Style

namespace DatabaseTypes.Formatter

/-- why a formatter gives nothing: the failure in words, and what the program wrote about it -/
structure Failure where
  error : Text
  errors : Option Text := none
  deriving DecidableEq

/-- a command in words -/
def commandText (command : List Text) : Text := (Json.list (command.map .text)).display

/-- the text of what a program wrote, with line feeds at the ends of lines -/
def decoded (bytes : Bytes) : Except Fault Text :=
  match Text.ofBytes bytes with
  | .ok t => .ok t.newlinesUnified
  | .error f => .error (.undecodable f)

/-- what a program that has ended gives: its output, or how it ended and what it wrote about that -/
def ended (command : List Text) (output errors : Bytes) (trouble : Option Text) :
    Except Fault (Except Failure Text) := do
  let text ← decoded output
  let said ← decoded errors
  match trouble with
  | none => pure (.ok text)
  | some how =>
    pure (.error { error := "Command '" ++ commandText command ++ "' " ++ how, errors := some said.trim })

/-- what a run of a command gives: a text, a failure, or a fault if it wrote something that is no
text -/
def result (command : List Text) (timeout : Binary64) :
    ProgramResult → Except Fault (Except Failure Text)
  | .notStarted f => .ok (.error { error := f.message })
  | .timedOut =>
    let error := "Command '" ++ commandText command ++ "' timed out after " ++ timeout.text ++ " seconds"
    .ok (.error { error })
  | .killed signal output errors => ended command output errors (some (Signal.ending signal))
  | .finished status output errors =>
    let how : Text := "returned non-zero exit status " ++ Text.ofNat status ++ "."
    ended command output errors (if status = 0 then none else some how)

/-- a text is given to a program that has begun, and must have bytes then -/
def given (t : Text) : ProgramResult → Except Fault Unit
  | .notStarted _ => .ok ()
  | _ => (t.encoded.mapError .unencodable).map fun _ => ()

/-- the name of the program of a command -/
def programName (command : List Text) : Text := command.headD []

/-- the output after the formatting pass -/
def formatted (f : FormatterSettings) (t : Text) : Action Text := do
  if !f.enabled then pure t
  else
    if let some fault := f.command.findSome? Files.nameFault? then Action.fail fault
    let s ← Action.session
    let (r, files) := s.host.run s.files f.command t.toBytes f.timeout
    if let .error fault := given t r then Action.fail fault
    modify fun s => s.withFiles files
    match ← Action.lift (result f.command f.timeout r) with
    | .error failure =>
      Action.log .warning "formatter_failed"
        [("command", .text (programName f.command)), ("error", .text failure.error),
         ("stderr", (failure.errors.map Json.text).getD .null)]
      pure (Style.tidied t)
    | .ok text =>
      if text.allBlank then
        Action.log .warning "formatter_empty_output" [("command", .text (programName f.command))]
        pure (Style.tidied t)
      else pure text

end DatabaseTypes.Formatter
