import DatabaseTypes.Filter.Arguments
import DatabaseTypes.Filter.Scene

/-!
# Programs that change entries

* `Filter.Work`          what a program has done to its operands so far
* `Filter.touching`      make files that are not there
* `Filter.removing`, `Filter.clearing`   remove files, and empty directories
* `Filter.founding`      make directories
* `Filter.duplicating`, `Filter.moving`  copy and move entries
* `Filter.naming`        write the names of entries
-/

namespace DatabaseTypes.Filter

/-! ## entries below a location -/

/-- the names in a directory, in their order -/
def namesIn (files : Files) (l : Location) : List Text :=
  let below := files.entries.filterMap fun e =>
    if !e.1.isEmpty && e.1.dropLast == l then e.1.getLast? else none
  below.eraseDups.mergeSort Text.atMost

/-! ## work -/

/-- what a program has done so far: the entries, and what it has written -/
structure Work where
  scene : Scene
  output : Bytes := []
  errors : Bytes := []

namespace Work

/-- the entries after a change -/
def changed (w : Work) (files : Files) : Work := { w with scene := { w.scene with files } }

/-- a message -/
def complained (w : Work) (message : Text) : Work :=
  { w with errors := w.errors ++ remark w.scene.called message }

/-- a line of output, if it is wanted -/
def reported (w : Work) (wanted : Bool) (line : Text) : Work :=
  if wanted then { w with output := w.output ++ (line ++ ['\n']).toBytes } else w

/-- a step on each operand -/
def each (s : Scene) (operands : List Text) (step : Work → Text → Work) : Work :=
  operands.foldl step { scene := s }

/-- the end of the work -/
def ended (w : Work) (input : Bytes) (failure : Nat := 1) : Outcome :=
  { ending := .status (if w.errors.isEmpty then 0 else failure), output := w.output
    errors := w.errors, left := input, files := some w.scene.files }

end Work

/-- a text between quotes -/
def inQuotes (t : Text) : Text := ['\''] ++ t ++ ['\'']

/-- a failure with an operand and its cause -/
def failing (what operand : Text) (cause : SystemCause) : Text :=
  what ++ ' ' :: inQuotes operand ++ ": " ++ cause.message

/-! ## files -/

/-- the options of making files -/
def touchLetters : Letters where
  plain := "acmfh"
  valued := "drt"
  words := [("no-create", 'c'), ("date", 'd'), ("no-dereference", 'h'), ("reference", 'r')]

/-- make files that are not there -/
def touching : Program := withArguments touchLetters fun s a input =>
  if a.operands.isEmpty then s.misuse "missing file operand" input
  else
    let step (w : Work) (t : Text) : Work :=
      match w.scene.entry t with
      | .ok (_, some _) => w
      | .ok (l, none) =>
        if a.has 'c' then w
        else if Text.endsWith ['/'] t then w.complained (failing "setting times of" t .notFound)
        else w.changed (w.scene.files.set l (.file []))
      | .error cause => w.complained (failing "cannot touch" t cause)
    (Work.each s a.operands step).ended input

/-- the options of removing -/
def removeLetters : Letters where
  plain := "dfiIrRv"
  words := [("dir", 'd'), ("force", 'f'), ("recursive", 'r'), ("verbose", 'v')]

/-- remove files, and directories with what is below them -/
def removing : Program := withArguments removeLetters fun s a input =>
  let deep := a.has 'r' || a.has 'R'
  if a.operands.isEmpty then
    if a.has 'f' then { left := input } else s.misuse "missing operand" input
  else
    let step (w : Work) (t : Text) : Work :=
      let lastPart := ((withoutSlashes t).reverse.takeWhile (· != '/')).reverse
      if deep && (lastPart == ['.'] || lastPart == ['.', '.']) then
        w.complained ("refusing to remove '.' or '..' directory: skipping " ++ inQuotes t)
      else match w.scene.entry t with
        | .ok (l, some .directory) =>
          if !deep && !a.has 'd' then w.complained (failing "cannot remove" t .isDirectory)
          else if !deep && !(namesIn w.scene.files l).isEmpty then
            w.complained ("cannot remove " ++ inQuotes t ++ ": Directory not empty")
          else (w.changed (w.scene.files.removed l)).reported (a.has 'v')
            ("removed directory " ++ inQuotes t)
        | .ok (l, some (.file _)) =>
          (w.changed (w.scene.files.removed l)).reported (a.has 'v') ("removed " ++ inQuotes t)
        | .ok (_, none) => if a.has 'f' then w else w.complained (failing "cannot remove" t .notFound)
        | .error cause =>
          if a.has 'f' && (cause == .notFound || cause == .notDirectory) then w
          else w.complained (failing "cannot remove" t cause)
    (Work.each s a.operands step).ended input
where
  withoutSlashes (t : Text) : Text := (t.reverse.dropWhile (· == '/')).reverse

/-! ## directories -/

/-- make a directory -/
def Work.founded (w : Work) (tells : Bool) (t : Text) : Work :=
  match w.scene.files.makeDirectory w.scene.here (Path.ofText t) with
  | .error cause => w.complained (failing "cannot create directory" t cause)
  | .ok files => (w.changed files).reported tells
    (w.scene.called ++ ": created directory " ++ inQuotes t)

/-- make a directory and those above it that are not there, from the highest one on -/
def Work.foundedAll (w : Work) (tells : Bool) (t : Text) : Work :=
  let p := Path.ofText t
  let ways := (List.range p.parts.length).map fun n => { p with parts := p.parts.take (n + 1) : Path }
  let missing := ways.filter fun p => match w.scene.entry p.text with
    | .ok (_, some .directory) => false
    | _ => true
  match missing with
  | [] => w
  | first :: more => match w.scene.entry first.text with
    | .ok (_, none) => (first :: more).foldl (fun w p => w.founded tells p.text) w
    | .error cause => w.complained (failing "cannot create directory" first.text cause)
    | .ok (_, some _) =>
      let cause : SystemCause := if more.isEmpty then .alreadyThere else .notDirectory
      w.complained (failing "cannot create directory" first.text cause)

/-- the options of making directories -/
def foundLetters : Letters where
  plain := "pv"
  valued := "m"
  words := [("mode", 'm'), ("parents", 'p'), ("verbose", 'v')]

/-- make directories -/
def founding : Program := withArguments foundLetters fun s a input =>
  if a.operands.isEmpty then s.misuse "missing operand" input
  else
    let step (w : Work) (t : Text) : Work :=
      if a.has 'p' then w.foundedAll (a.has 'v') t else w.founded (a.has 'v') t
    (Work.each s a.operands step).ended input

/-- remove an empty directory -/
def Work.cleared (w : Work) (tells : Bool) (t : Text) : Work :=
  let refused (why : Text) : Work := w.complained ("failed to remove " ++ inQuotes t ++ ": " ++ why)
  match w.scene.entry t with
  | .error cause => refused cause.message
  | .ok (_, none) => refused SystemCause.notFound.message
  | .ok (_, some (.file _)) => refused SystemCause.notDirectory.message
  | .ok (l, some .directory) =>
    if !(namesIn w.scene.files l).isEmpty then refused "Directory not empty"
    else if Text.endsWith ['.'] t then refused "Invalid argument"
    else (w.changed (w.scene.files.removed l)).reported tells
      (w.scene.called ++ ": removing directory, " ++ inQuotes t)

/-- remove empty directories -/
def clearing : Program :=
  withArguments { plain := "pv", words := [("parents", 'p'), ("verbose", 'v')] } fun s a input =>
  if a.operands.isEmpty then s.misuse "missing operand" input
  else
    let step (w : Work) (t : Text) : Work :=
      let p := Path.ofText t
      let above := (List.range (p.parts.length - 1)).reverse.map fun n =>
        { p with parts := p.parts.take (n + 1) : Path }.text
      let all := t :: if a.has 'p' then above else []
      all.foldl (fun v t => if w.errors.length < v.errors.length then v else v.cleared (a.has 'v') t) w
    (Work.each s a.operands step).ended input

/-! ## copying and moving -/

/-- one entry to be brought to another place -/
structure Transfer where
  source : Text
  target : Text

/-- what operands ask for: each source is brought into the last operand if that is a directory -/
def transfers (s : Scene) (operands : List Text) : Except Text (List Transfer) :=
  let target := operands.getLast?.getD []
  let sources := operands.dropLast
  let within (t : Text) : Transfer :=
    let bare := (t.reverse.dropWhile (· == '/')).reverse
    ⟨t, Scene.inDirectory ((bare.reverse.takeWhile (· != '/')).reverse) target⟩
  match s.entry target, sources with
  | .ok (_, some .directory), sources => .ok (sources.map within)
  | _, [source] => .ok [⟨source, target⟩]
  | .ok (_, some (.file _)), _ => .error ("target " ++ inQuotes target ++ ": Not a directory")
  | .ok (_, none), _ => .error (failing "target" target .notFound)
  | .error cause, _ => .error (failing "target" target cause)

/-- do the transfers that operands ask for -/
def transferring (s : Scene) (a : Arguments) (input : Bytes) (step : Work → Transfer → Work) :
    Outcome :=
  match a.operands with
  | [] => s.misuse "missing file operand" input
  | [t] => s.misuse ("missing destination file operand after " ++ inQuotes t) input
  | operands => match transfers s operands with
    | .error t => s.complaint t input
    | .ok ts => (ts.foldl step { scene := s }).ended input

/-- two names of one file -/
def sameFile (t : Transfer) : Text :=
  inQuotes t.source ++ " and " ++ inQuotes t.target ++ " are the same file"

/-- a source and a target in words -/
def fromTo (t : Transfer) : Text := inQuotes t.source ++ " -> " ++ inQuotes t.target

/-- copy an entry -/
def Work.duplicated (w : Work) (a : Arguments) (t : Transfer) : Work :=
  let deep := ("rRa".toList).any a.has
  let done (files : Files) : Work := (w.changed files).reported (a.has 'v') (fromTo t)
  match w.scene.entry t.source with
  | .error cause => w.complained (failing "cannot stat" t.source cause)
  | .ok (_, none) => w.complained (failing "cannot stat" t.source .notFound)
  | .ok (l, some (.file bytes)) => match w.scene.entry t.target with
    | .ok (m, e) =>
      if l = m then w.complained (sameFile t)
      else if e = some .directory then w.complained ("cannot overwrite directory " ++ inQuotes t.target
        ++ " with non-directory " ++ inQuotes t.source)
      else if e.isSome && a.has 'n' then w
      else if e.isNone && Text.endsWith ['/'] t.target then
        w.complained (failing "cannot create regular file" t.target .notDirectory)
      else done (w.scene.files.set m (.file bytes))
    | .error .notDirectory => w.complained (failing "cannot stat" t.target .notDirectory)
    | .error cause => w.complained (failing "cannot create regular file" t.target cause)
  | .ok (l, some .directory) =>
    if !deep then w.complained ("-r not specified; omitting directory " ++ inQuotes t.source)
    else match w.scene.entry t.target with
      | .ok (m, e) =>
        if l.isWithin m then
          w.complained ("cannot copy a directory, " ++ inQuotes t.source ++ ", into itself, "
            ++ inQuotes t.target)
        else if e.any fun e => e != .directory then
          w.complained ("cannot overwrite non-directory " ++ inQuotes t.target ++ " with directory "
            ++ inQuotes t.source)
        else done (w.scene.files.copied l m)
      | .error cause => w.complained (failing "cannot create directory" t.target cause)

/-- a copy of the input, or one that is written; nothing else has to do with streams -/
def streamed? (s : Scene) (input : Bytes) (source target : Text) : Option Outcome :=
  let fromInput := Scene.inputPaths.contains source
  let bytes := if fromInput then .ok input else s.read source
  match bytes with
  | .error _ => none
  | .ok bytes =>
    let left := if fromInput then [] else input
    if target = "/dev/stdout" then some { output := bytes, left }
    else if target = "/dev/stderr" then some { errors := bytes, left }
    else if !fromInput then none
    else
      let place := match s.entry target with
        | .ok (_, some .directory) => Scene.inDirectory (source.reverse.takeWhile (· != '/')).reverse target
        | _ => target
      match s.written place fun _ => bytes with
      | .ok files => some { left, files := some files }
      | .error cause => some (s.complaint (failing "cannot create regular file" place cause) input)

/-- the words of options about copying and moving -/
def transferWords : List (Text × Char) := [("archive", 'a'), ("force", 'f'), ("interactive", 'i'),
  ("no-clobber", 'n'), ("recursive", 'r'), ("no-target-directory", 'T'), ("update", 'u'), ("verbose", 'v')]

/-- copy entries -/
def duplicating : Program :=
  withArguments { plain := "rRafvpnidTu", words := transferWords } fun s a input =>
  let streamed := match a.operands with
    | [source, target] => streamed? s input source target
    | _ => none
  streamed.getD (transferring s a input fun w t => w.duplicated a t)

/-- move an entry -/
def Work.moved (w : Work) (a : Arguments) (t : Transfer) : Work :=
  let refused (cause : SystemCause) : Work :=
    w.complained ("cannot move " ++ inQuotes t.source ++ " to " ++ inQuotes t.target ++ ": "
      ++ cause.message)
  match w.scene.entry t.source with
  | .error cause => w.complained (failing "cannot stat" t.source cause)
  | .ok (_, none) => w.complained (failing "cannot stat" t.source .notFound)
  | .ok (l, some e) => match w.scene.entry t.target with
    | .error cause => refused cause
    | .ok (m, there) =>
      let done : Work := (w.changed (w.scene.files.renamed l m)).reported (a.has 'v')
          ("renamed " ++ fromTo t)
      if l = m then w.complained (sameFile t)
      else match e, there with
        | .directory, some (.file _) => w.complained ("cannot overwrite non-directory "
            ++ inQuotes t.target ++ " with directory " ++ inQuotes t.source)
        | .file _, some .directory => w.complained ("cannot overwrite directory "
            ++ inQuotes t.target ++ " with non-directory " ++ inQuotes t.source)
        | .file _, none => if Text.endsWith ['/'] t.target then refused .notDirectory else done
        | .directory, _ =>
          if l.isWithin m then w.complained ("cannot move " ++ inQuotes t.source
            ++ " to a subdirectory of itself, " ++ inQuotes t.target)
          else done
        | .file _, some (.file _) => if a.has 'n' then w else done

/-- move entries -/
def moving : Program :=
  let words := transferWords.filter fun w => w.2 != 'a' && w.2 != 'r'
  withArguments { plain := "finvTu", words } fun s a input =>
    transferring s a input fun w t => w.moved a t

/-! ## names -/

/-- a name as options ask for it -/
def namedAs (a : Arguments) (name : Text) (e : Entry) : Text :=
  if e == .directory && (a.has 'F' || a.has 'p') then name ++ ['/'] else name

/-- the names in a directory as options ask for them, one on each line -/
def directoryLines (a : Arguments) (files : Files) (l : Location) : List Text :=
  let all := if a.has 'a' then [".".toList, "..".toList] else []
  let shown := (namesIn files l).filter fun n => a.has 'a' || a.has 'A' || n.head? != some '.'
  let lines := all.map (namedAs a · .directory) ++ shown.map fun n =>
    namedAs a n ((files.find? (l ++ [n])).getD (.file []))
  if a.has 'r' then lines.reverse else lines

/-- the options of naming entries -/
def nameLetters : Letters where
  plain := "1aACdFhklnpqrstUx"
  failure := 2
  words := [("all", 'a'), ("almost-all", 'A'), ("directory", 'd'), ("classify", 'F'), ("reverse", 'r')]

/-- write the names of entries -/
def naming : Program := withArguments nameLetters fun s a input =>
  let operands := if a.operands.isEmpty then [['.']] else a.operands.mergeSort Text.atMost
  let operands := if a.has 'r' then operands.reverse else operands
  let found := operands.map fun t => (t, match s.entry t with
    | .ok (l, some e) => Except.ok (l, e)
    | .ok (_, none) => .error SystemCause.notFound
    | .error cause => .error cause)
  let errors := found.flatMap fun (t, r) => match r with
    | .ok _ => []
    | .error cause => remark s.called (failing "cannot access" t cause)
  let plain := found.filterMap fun (t, r) => match r with
    | .ok (_, e) => if e == .directory && !a.has 'd' then none else some (namedAs a t e)
    | .error _ => none
  let directories := found.filterMap fun (t, r) => match r with
    | .ok (l, e) => if e == .directory && !a.has 'd' then some (t, directoryLines a s.files l) else none
    | .error _ => none
  let headed := 1 < operands.length
  let parts := directories.map fun (t, ls) => if headed then (t ++ [':']) :: ls else ls
  let blocks := (if plain.isEmpty then [] else [plain]) ++ parts
  let lines := Text.joined ['\n'] (blocks.map fun ls => ls.flatMap (· ++ ['\n']))
  { ending := .status (if errors.isEmpty then 0 else 2), output := lines.toBytes, errors, left := input }

end DatabaseTypes.Filter
