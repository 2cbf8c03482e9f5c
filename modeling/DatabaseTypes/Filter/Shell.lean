import DatabaseTypes.Filter.Shell.Evaluation
import DatabaseTypes.Session

/-!
# Running programs

* `Filter.startCost`   the time that a program takes at least
* `Filter.run`         the run of a command: how it ends, and the files after it
-/

namespace DatabaseTypes.Filter

/-- how many steps a program may take before it is taken to run for ever -/
def greatestSteps : Nat := 100000

/-- the number of the program that is started first -/
def firstIdentifier : Nat := 1000

/-- the time that a program takes at least, in seconds -/
def startCost : Binary64 := .ofQuotient false 3 10000

/-- the outcome as the result of a program that is given some time -/
def Outcome.result (o : Outcome) (timeout : Binary64) : ProgramResult :=
  if timeout.atMost (startCost.plus o.slept) then .timedOut
  else match o.ending with
    | .never => .timedOut
    | .status n => .finished n o.output o.errors
    | .signal n => .killed n o.output o.errors

/-- the length from which on a word is too long for a program, in bytes -/
def tooLong : Nat := 131072

/-- the run of a command, and the files after it -/
def run (environment : List (Text × Text)) (here : Location) (files : Files) (command : List Text)
    (input : Bytes) (timeout : Binary64) : ProgramResult × Files :=
  let name := command.headD []
  let s : Scene := { called := name, environment, files, here }
  let isLong (t : Text) : Bool := tooLong ≤ t.toBytes.length + 1
  match Scene.program programNames s name with
  | .error cause => (.notStarted ⟨cause, name⟩, files)
  | .ok program =>
    if command.any isLong then (.notStarted ⟨.argumentsTooLong, name⟩, files)
    else
      let o := Shell.startProgram greatestSteps firstIdentifier program s (command.drop 1) input timeout
      (o.result timeout, o.files.getD files)

end DatabaseTypes.Filter
