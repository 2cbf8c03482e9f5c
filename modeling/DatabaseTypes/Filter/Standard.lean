import DatabaseTypes.Filter.Blocks
import DatabaseTypes.Filter.Condition
import DatabaseTypes.Filter.Digest
import DatabaseTypes.Filter.Dump
import DatabaseTypes.Filter.Editor
import DatabaseTypes.Filter.Encoding
import DatabaseTypes.Filter.Ends
import DatabaseTypes.Filter.Entries
import DatabaseTypes.Filter.Exchange
import DatabaseTypes.Filter.Tabs
import DatabaseTypes.Filter.Joining
import DatabaseTypes.Filter.Machine
import DatabaseTypes.Filter.Numbering
import DatabaseTypes.Filter.Paragraph
import DatabaseTypes.Filter.Parts
import DatabaseTypes.Filter.Precedence
import DatabaseTypes.Filter.Reckoning
import DatabaseTypes.Filter.Records
import DatabaseTypes.Filter.Search
import DatabaseTypes.Filter.Sorting
import DatabaseTypes.Filter.Thinning
import DatabaseTypes.Filter.Turning
import DatabaseTypes.Filter.Writing

/-!
# The programs

* `Filter.standard`        the programs by their names
* `Filter.launching`       the programs that may start others
* `Filter.programNames`    the names of all programs
-/

namespace DatabaseTypes.Filter

/-- the programs that make one text of another -/
def changers : List (Text × Program) := [
  ("cat", copying), ("tee", spreading), ("head", leading), ("tail", trailing), ("wc", counting),
  ("sort", sorting), ("uniq", thinning), ("tac", upending), ("rev", turning), ("nl", numbering),
  ("cut", cutting), ("tr", exchanging), ("grep", choosing), ("egrep", choosingLike 'E'),
  ("fgrep", choosingLike 'F'), ("dd", blocking),
  ("fold", folding), ("expand", expanding), ("unexpand", contracting), ("fmt", filling),
  ("paste", pasting), ("comm", comparing), ("od", dumping), ("tsort", preceding),
  ("base64", lettering (some .base64)), ("base32", lettering (some .base32)), ("basenc", lettering none)]

/-- the programs that write digests and checksums -/
def digesters : List (Text × Program) :=
  ("cksum", checking) :: ("sum", summing) :: digests.map fun d => (d.1, digesting d.2.1 d.2.2)

/-- the programs that write or wait -/
def writers : List (Text × Program) := [
  ("printf", printing .file), ("echo", echoing .file), ("seq", listing), ("basename", lastPart),
  ("dirname", firstParts), ("pwd", placing .file), ("printenv", telling), ("sleep", sleeping),
  ("yes", endless), ("test", testing .file), ("[", testingBracketed .file),
  ("expr", reckoning), ("factor", factoring), ("realpath", resolving), ("readlink", pointing),
  ("uname", presenting), ("arch", fun s args => presenting s (['-', 'm'] :: args)), ("tty", connected),
  ("true", fun _ _ input => { left := input }),
  ("false", fun _ _ input => { ending := .status 1, left := input })]

/-- the programs that change entries or name them -/
def keepers : List (Text × Program) := [
  ("touch", touching), ("rm", removing), ("rmdir", clearing), ("mkdir", founding),
  ("cp", duplicating), ("mv", moving), ("ls", naming)]

/-- the programs by their names, but for those that start others -/
def standard : List (Text × Program) := changers ++ digesters ++ writers ++ keepers

/-- the names of shells -/
def shellNames : List Text := ["sh", "dash", "bash"]

/-- the names of the programs that start others, and do nothing else -/
def starterNames : List Text := ["env", "nice", "nohup", "timeout", "xargs", "stdbuf", "setsid"]

/-- the programs that may start others -/
def launching : List (Text × (Launcher → Program)) := [("sed", editing), ("awk", recording),
  ("mawk", recording)]

/-- the name of the program that finds programs -/
def finderName : Text := "which"

/-- the names of all programs -/
def programNames : List Text :=
  finderName :: standard.map (·.1) ++ launching.map (·.1) ++ shellNames ++ starterNames

/-- the program by a name, but for those that start others -/
def programBy? (name : Text) : Option Program :=
  if name = finderName then some (locating programNames) else standard.lookup name

end DatabaseTypes.Filter
