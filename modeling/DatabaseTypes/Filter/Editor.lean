import DatabaseTypes.Filter.Arguments
import DatabaseTypes.Filter.Editor.Editing
import DatabaseTypes.Filter.Scene

/-!
# The line editor

* `Filter.EditErrand`   what the editor is asked for
* `Filter.editing`      the filter
-/

namespace DatabaseTypes.Filter

/-! ## what is asked for -/

/-- the letter of the options that change nothing here -/
def idleLetter : Char := '\x01'

/-- the options of the editor -/
def editLetters : Letters where
  plain := ['n', 'E', 'r', 's', 'u', 'z', 'b', idleLetter]
  valued := "efl"
  optional := "i"
  words := [("quiet", 'n'), ("silent", 'n'), ("expression", 'e'), ("file", 'f'), ("in-place", 'i'),
    ("line-length", 'l'), ("regexp-extended", 'E'), ("separate", 's'), ("unbuffered", 'u'),
    ("zero-terminated", 'z'), ("null-data", 'z'), ("binary", 'b'), ("posix", idleLetter),
    ("sandbox", idleLetter), ("follow-symlinks", idleLetter)]

/-- what the editor is asked for: its rules, whether each file is edited for itself, how the files
before the change are named if they stay, and the files -/
structure EditErrand where
  rules : EditRules
  separate : Bool
  keptAs : Text
  operands : List Text

/-- a failure, and the status after it -/
abbrev EditFailure := Text × Nat

/-- a piece of a script that an option gives: it is one itself, or the bytes of a file are -/
def pieceOf (s : Scene) (input : Bytes) (o : Char × Text) : Except EditFailure Script.Piece :=
  if o.1 = 'e' then .ok { text := asText o.2.toBytes }
  else
    let bytes := if o.2 = ['-'] ∨ Scene.inputPaths.contains o.2 then .ok input else s.read o.2
    match bytes with
    | .ok bytes =>
      let t := asText bytes
      .ok { text := if t.getLast? == some '\n' then t.dropLast else t, file := some o.2 }
    | .error cause => .error ("couldn't open file " ++ o.2 ++ ": " ++ cause.message, 4)

/-- what arguments ask for, or what is wrong with them -/
def EditErrand.ofArguments (launcher : Launcher) (s : Scene) (a : Arguments) (input : Bytes) :
    Except EditFailure EditErrand := do
  let given := a.options.filter fun o => o.1 == 'e' || o.1 == 'f'
  let (given, operands) :=
    if given.isEmpty then ((a.operands.take 1).map fun t => ('e', t), a.operands.drop 1)
    else (given, a.operands)
  if given.isEmpty then throw ("no script specified".toList, 1)
  let pieces ← given.mapM (pieceOf s input)
  let script ← match Script.ofPieces (a.has 'E' || a.has 'r') pieces with
    | .ok script => pure script
    | .error t => throw (t, if Text.startsWith "can't find label".toList t then 4 else 1)
  let asksForQuiet := (pieces.head?.map fun p => Script.asksForQuiet p.text).getD false
  let digits := ((a.value? 'l').getD "70").takeWhile Text.isDigit
  pure {
    rules := {
      script, quiet := a.has 'n' || asksForQuiet, feed := if a.has 'z' then '\x00' else '\n'
      width := (count? digits).getD 0, inPlace := a.has 'i'
      read := fun files t => (Scene.read { s with files } t).toOption
      run := fun files t => launcher.script { s with files } (Text.ofBytesShowing (asBytes t)) [] }
    separate := a.has 's' || a.has 'i', keptAs := (a.value? 'i').getD [], operands }

/-! ## files -/

/-- the files that a script writes to -/
def filesWritten (script : List Instruction) : List Text :=
  (script.filterMap fun i => match i.deed with
    | .write file | .writeFirst file => some file
    | .replace _ _ _ sequel => sequel.file
    | _ => none).eraseDups

/-- the paths of what is written and of messages -/
def streamPaths : List Text := ["/dev/stdout", "/dev/stderr"]

/-- the files that a script writes to, without the paths of streams -/
def filesChanged (script : List Instruction) : List Text :=
  (filesWritten script).filter fun t => !streamPaths.contains t

/-- why a file cannot be edited in its place, and the status after that -/
def inPlaceFailure (operand : Text) (cause : SystemCause) : EditFailure :=
  if cause = .isDirectory then ("couldn't edit " ++ operand ++ ": not a regular file", 4)
  else ("can't read " ++ operand ++ ": " ++ cause.message, 2)

/-- why a file cannot be read, and the status after that -/
def readingFailure (operand : Text) (cause : SystemCause) : EditFailure :=
  if cause = .isDirectory then ("read error on " ++ operand ++ ": " ++ cause.message, 4)
  else ("can't read " ++ operand ++ ": " ++ cause.message, 2)

/-- the name of a file before the change -/
def nameBefore (keptAs operand : Text) : Text :=
  let base := (operand.reverse.takeWhile (· != '/')).reverse
  let front := operand.take (operand.length - base.length)
  front ++ if keptAs.contains '*' then Text.replaced ['*'] base keptAs else base ++ keptAs

/-- the lines of a file with its name -/
def namedLines (r : EditRules) (name : Text) (bytes : Bytes) : List (Text × Bytes) :=
  (piecesOf (UInt8.ofNat r.feed.toNat) bytes).map fun l => (name, l)

/-! ## editing -/

/-- editing with the messages about files so far, and the greatest status of them -/
structure EditWork where
  editing : Editing
  errors : Bytes := []
  status : Nat := 0

/-- a failure told -/
def EditWork.told (w : EditWork) (s : Scene) (f : EditFailure) : EditWork :=
  { w with errors := w.errors ++ remark s.called f.1, status := max w.status f.2 }

/-- a file edited in its place -/
def EditWork.inPlace (e : EditErrand) (s : Scene) (w : EditWork) (t : Text) : EditWork :=
  if w.editing.finished.isSome then w
  else
    let s : Scene := { s with files := w.editing.disk }
    match s.read t with
    | .error cause => w.told s (inPlaceFailure t cause)
    | .ok bytes =>
      let edited := Editing.goOn e.rules { w.editing with output := {} } (namedLines e.rules t bytes)
      let s : Scene := { s with files := edited.disk }
      let kept := do
        let (l, _) ← s.entry t
        if e.keptAs.isEmpty then pure (s.files.removed l)
        else
          let (m, _) ← s.entry (nameBefore e.keptAs t)
          pure (s.files.renamed l m)
      let files := kept.bind fun files => Scene.written { s with files } t fun _ => edited.output.bytes
      match files with
      | .ok disk => { w with editing := { edited with disk } }
      | .error cause => w.told s (inPlaceFailure t cause)

/-- files edited one after the other, as one text or each for itself -/
def EditWork.inTurn (e : EditErrand) (s : Scene) (w : EditWork) (os : List Scene.Operand) :
    EditWork :=
  let w := os.foldl (fun w o => match o.2 with
    | .ok _ => w
    | .error cause => w.told s (readingFailure o.1 cause)) w
  let texts := os.filterMap fun o => o.2.toOption.map (namedLines e.rules o.1)
  let parts := if e.separate then texts else [texts.flatten]
  { w with editing := parts.foldl (fun x ls => x.goOn e.rules ls) w.editing }

/-- what the editor writes and changes in the end -/
def EditWork.outcome (w : EditWork) (e : EditErrand) (s : Scene) (left : Bytes) : Outcome :=
  let written := w.editing.files.foldl (fun files f =>
    if streamPaths.contains f.1 then files
    else (Scene.written { s with files } f.1 fun _ => f.2.bytes).toOption.getD files) w.editing.disk
  let output := if e.rules.inPlace
    then ((w.editing.files.lookup "/dev/stdout".toList).map (·.bytes)).getD []
    else w.editing.output.bytes
  let own := if w.editing.lacksPattern
    then remark s.called "-e expression #1, char 0: no previous regular expression" else []
  let ending := match w.editing.finished with
    | none | some (.status 0) => .status w.status
    | some ending => ending
  { ending, output, errors := w.errors ++ w.editing.errors ++ own, left
    slept := w.editing.slept, files := some written }

/-- an errand done -/
def EditErrand.performed (e : EditErrand) (s : Scene) (input : Bytes) : Outcome :=
  let names := filesChanged e.rules.script
  let opened : Except EditFailure Files := names.foldlM (fun files t =>
    (Scene.written { s with files } t fun _ => []).mapError fun cause =>
      ("couldn't open file " ++ t ++ ": " ++ cause.message, 4)) s.files
  match opened with
  | .error (t, status) => s.complaint t input status
  | .ok files =>
    let s : Scene := { s with files }
    let editing : Editing := {
      files := (filesWritten e.rules.script).map fun t => (t, {}), disk := files }
    let begun : EditWork := { editing }
    if e.rules.inPlace then
      if e.operands.isEmpty then s.complaint "no input files" input 4
      else (e.operands.foldl (EditWork.inPlace e s) begun).outcome e s input
    else
      let (os, left) := s.operands e.operands input
      (begun.inTurn e s os).outcome e s left

/-- edit line by line; the text of files is written, or they are edited in their places -/
def editing (launcher : Launcher) : Program := withArguments editLetters fun s a input =>
  match EditErrand.ofArguments launcher s a input with
  | .error (t, status) => s.complaint t input status
  | .ok e => e.performed s input

end DatabaseTypes.Filter
