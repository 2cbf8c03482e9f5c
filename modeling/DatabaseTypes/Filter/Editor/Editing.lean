import DatabaseTypes.Filter.Editor.Script

/-!
# Editing lines

A script is carried out for every line.  The line is held in a space of its own, and another space
keeps what is put there.

* `Filter.EditRules`     what holds for all lines
* `Filter.Editing`       lines that are being edited
* `Filter.Editing.all`   the script carried out for all lines
-/

namespace DatabaseTypes.Filter

/-- what holds for all lines: the script, whether lines are written only if the script says so, what
ends a line, the width of spelt lines, whether the lines go back into their file, the bytes of other
files, and what commands do -/
structure EditRules where
  script : List Instruction
  quiet : Bool := false
  feed : Char := '\n'
  width : Nat := 70
  inPlace : Bool := false
  read : Files → Text → Option Bytes := fun _ _ => none
  run : Files → Text → Outcome := fun _ _ => {}

/-- bytes that were written, the last one first, and whether they lack what ends a line -/
structure Sheet where
  reversed : Bytes := []
  lacksFeed : Bool := false

/-- the bytes in their order -/
def Sheet.bytes (s : Sheet) : Bytes := s.reversed.reverse

/-- bytes at the end of a sheet -/
def Sheet.adding (s : Sheet) (bs : Bytes) : Sheet := { s with reversed := bs.reverse ++ s.reversed }

/-- what lacks at the end of a sheet, added -/
def Sheet.completed (s : Sheet) (feed : Char) : Sheet :=
  if s.lacksFeed then { s.adding (asBytes [feed]) with lacksFeed := false } else s

/-- a line at the end of a sheet -/
def Sheet.withLine (s : Sheet) (feed : Char) (t : Text) (ended : Bool) : Sheet :=
  { (s.completed feed).adding (asBytes (if ended then t ++ [feed] else t)) with lacksFeed := !ended }

/-- a text at the end of a sheet -/
def Sheet.withText (s : Sheet) (feed : Char) (t : Text) : Sheet :=
  (s.completed feed).adding (asBytes t)

/-- bytes at the end of a sheet come after those that are there -/
theorem Sheet.bytes_adding (s : Sheet) (bs : Bytes) : (s.adding bs).bytes = s.bytes ++ bs := by
  simp [Sheet.adding, Sheet.bytes]

/-- what is written after a line: a text, or what a file holds -/
inductive Appendix where
  | text (t : Text)
  | file (name : Text)

/-- lines that are being edited -/
structure Editing where
  /-- the line and the other space -/
  line : Text := []
  kept : Text := []
  /-- the number of the line and the name of its file, the lines after it with the names of theirs, and
  whether it is ended -/
  number : Nat := 0
  name : Text := []
  lines : List (Text × Bytes) := []
  ended : Bool := true
  /-- what is written: the lines, messages, and other files by their names -/
  output : Sheet := {}
  errors : Bytes := []
  files : List (Text × Sheet) := []
  /-- the files as they are, but for those that are written, and how long commands slept -/
  disk : Files := {}
  slept : Binary64 := .zero false
  /-- how many lines of other files were taken -/
  taken : List (Text × Nat) := []
  /-- what is written after the line -/
  after : List Appendix := []
  /-- the instructions whose range goes on, by their places, and the number of the last line if it is
  known -/
  within : List (Nat × Option Nat) := []
  /-- the pattern that was looked for before -/
  pattern : Option Pattern := none
  /-- was a pattern asked for that there was not? -/
  lacksPattern : Bool := false
  /-- was anything replaced since the line was taken? -/
  replaced : Bool := false
  /-- how it ends, once no line is to come -/
  finished : Option Ending := none

namespace Editing

/-! ## reading and writing -/

/-- a line written -/
def put (e : Editing) (r : EditRules) (t : Text) (ended : Bool := true) : Editing :=
  { e with output := e.output.withLine r.feed t ended }

/-- a text written -/
def putText (e : Editing) (r : EditRules) (t : Text) : Editing :=
  { e with output := e.output.withText r.feed t }

/-- a line written to a file -/
def putTo (e : Editing) (r : EditRules) (file t : Text) (ended : Bool) : Editing :=
  let bytes := asBytes (if ended then t ++ [r.feed] else t)
  if file = "/dev/stderr" then { e with errors := e.errors ++ bytes }
  else if file = "/dev/stdout" ∧ r.inPlace = false then
    { e with output := e.output.adding bytes }
  else { e with files := e.files.map fun f =>
    if f.1 = file then (f.1, f.2.withLine r.feed t ended) else f }

/-- what is to be written after the line, written -/
def settle (e : Editing) (r : EditRules) : Editing :=
  e.after.foldl (fun e a => e.putText r (match a with
    | .text t => t
    | .file name => ((r.read e.disk name).map asText).getD [])) { e with after := [] }

/-- the next line taken, if there is one -/
def advance? (e : Editing) (r : EditRules) : Option Editing :=
  match e.lines with
  | [] => none
  | (name, l) :: ls =>
    let t := asText l
    let ended := t.getLast? == some r.feed
    some { e with
      line := if ended then t.dropLast else t, number := e.number + 1, name, lines := ls, ended
      replaced := false }

/-- the line at its end written, unless lines are written only if the script says so -/
def shown (r : EditRules) (e : Editing) : Editing := if r.quiet then e else e.put r e.line e.ended

/-- the next line of another file, if it has one more -/
def lineOf (e : Editing) (r : EditRules) (file : Text) : Option Bytes × Editing :=
  let n := (e.taken.lookup file).getD 0
  let taken := (file, n + 1) :: e.taken.filter (·.1 != file)
  (((r.read e.disk file).bind fun bytes => (piecesOf (UInt8.ofNat r.feed.toNat) bytes)[n]?), { e with taken })

/-! ## spelling -/

/-- a character in letters -/
def spelt (c : Char) : Text :=
  let table : List (Char × Char) := [('\\', '\\'), ('\x07', 'a'), ('\x08', 'b'), ('\x0c', 'f'), ('\n', 'n'),
    ('\r', 'r'), ('\t', 't'), ('\x0b', 'v')]
  match table.lookup c with
  | some letter => ['\\', letter]
  | none =>
    if ' ' ≤ c ∧ c ≤ '~' then [c]
    else '\\' :: Text.zeroPadded 3 (Nat.toDigits 8 c.toNat)

/-- a text in letters, on lines that are not too long; `used` is what is written on the last one -/
def speltLines (width used : Nat) : Text → Text
  | [] => ['$', '\n']
  | c :: t =>
    let piece := spelt c
    if 0 < width ∧ width < used + piece.length + 1 then
      ['\\', '\n'] ++ piece ++ speltLines width piece.length t
    else piece ++ speltLines width (used + piece.length) t

/-! ## deeds -/

/-- what follows a deed -/
inductive Turn where
  /-- the next instruction -/
  | goOn
  /-- the end of the script for this line, with or without writing it -/
  | finish (shows : Bool)
  /-- the script from its front without taking a line -/
  | again

/-- the pattern that is meant, and the editing after it is looked for -/
def patternFor (e : Editing) (p : Option Pattern) : Option Pattern × Editing :=
  match p <|> e.pattern with
  | some p => (some p, { e with pattern := some p })
  | none => (none, { e with lacksPattern := true, finished := some (.status 1) })

/-- a command carried out, and what it writes -/
def ran (e : Editing) (r : EditRules) (command : Text) : Bytes × Editing :=
  let o := r.run e.disk command
  (o.output, { e with
    errors := e.errors ++ o.errors, disk := o.files.getD e.disk, slept := e.slept.plus o.slept
    finished := match o.ending with
      | .never => some .never
      | _ => e.finished })

/-- the line carried out as a command; what it writes takes its place, without the last feed -/
def carriedOut (e : Editing) (r : EditRules) : Editing :=
  let (bytes, e) := e.ran r e.line
  let t := asText bytes
  { e with line := if t.getLast? == some r.feed then t.dropLast else t }

/-- what follows a replacement, done -/
def followed (e : Editing) (r : EditRules) (s : Sequel) : Editing :=
  let e := if s.printedFirst then e.put r e.line e.ended else e
  let e := if s.carriedOut then e.carriedOut r else e
  let e := if s.printed then e.put r e.line e.ended else e
  (s.file.map fun name => e.putTo r name e.line e.ended).getD e

/-- a line with matches replaced -/
def replace (e : Editing) (r : EditRules) (p : Option Pattern) (new : Text) (choice : Pattern.Choice)
    (sequel : Sequel) : Editing × Turn :=
  match e.patternFor p with
  | (none, e) => (e, .finish false)
  | (some p, e) =>
    let (line, changed) := p.replaced new choice e.line
    if !changed then (e, .goOn)
    else (({ e with line, replaced := true } : Editing).followed r sequel, .goOn)

/-- a deed done, and what follows it -/
def done (r : EditRules) (e : Editing) : Deed → Editing × Turn
  | .print => (e.put r e.line e.ended, .goOn)
  | .printFirst => (e.put r (e.line.takeWhile (· != r.feed)), .goOn)
  | .delete => (e, .finish false)
  | .deleteFirst =>
    if e.line.contains r.feed then
      ({ e with line := (e.line.dropWhile (· != r.feed)).drop 1 }, .again)
    else (e, .finish false)
  | .quit status silent =>
    let e := { e with finished := some (.status status) }
    (if silent then { e with after := [] } else e, .finish (!silent))
  | .replace p new choice sequel => e.replace r p new choice sequel
  | .insertOutput command =>
    let (bytes, e) := e.ran r command.dropLast
    (e.putText r (asText bytes), .goOn)
  | .carryOut => (e.carriedOut r, .goOn)
  | .exchange old new =>
    let one (c : Char) : Char := ((old.idxOf? c).bind fun i => new[i]?).getD c
    ({ e with line := e.line.map one }, .goOn)
  | .appendText t => ({ e with after := e.after ++ [.text t] }, .goOn)
  | .insertText t => (e.putText r t, .goOn)
  | .changeText t => (e.putText r t, .finish false)
  | .appendFile file => ({ e with after := e.after ++ [.file file] }, .goOn)
  | .appendLine file => match e.lineOf r file with
    | (some l, e) => ({ e with after := e.after ++ [.text (asText l)] }, .goOn)
    | (none, e) => (e, .goOn)
  | .write file => (e.putTo r file e.line e.ended, .goOn)
  | .writeFirst file => (e.putTo r file (e.line.takeWhile (· != r.feed)) true, .goOn)
  | .spell width => (e.putText r (speltLines (width.getD r.width) 0 e.line), .goOn)
  | .blank => ({ e with line := [] }, .goOn)
  | .name => (e.put r e.name, .goOn)
  | .number => (e.putText r (Text.ofNat e.number ++ ['\n']), .goOn)
  | .next =>
    if e.lines.isEmpty then ({ e with finished := some (.status 0) }, .finish true)
    else
      let e := (e.shown r).settle r
      ((e.advance? r).getD e, .goOn)
  | .join =>
    if e.lines.isEmpty then ({ e with finished := some (.status 0) }, .finish true)
    else
      let e := e.settle r
      let next := (e.advance? r).getD e
      ({ next with line := e.line ++ [r.feed] ++ next.line }, .goOn)
  | .keep => ({ e with kept := e.line }, .goOn)
  | .keepMore => ({ e with kept := e.kept ++ [r.feed] ++ e.line }, .goOn)
  | .fetch => ({ e with line := e.kept }, .goOn)
  | .fetchMore => ({ e with line := e.line ++ [r.feed] ++ e.kept }, .goOn)
  | .swap => ({ e with line := e.kept, kept := e.line }, .goOn)
  | .label _ | .jump _ _ | .block _ | .nothing => (e, .goOn)

/-! ## ranges -/

/-- is the line the one that is marked? -/
def isAt (e : Editing) : LineMark → Bool × Editing
  | .number n => (e.number == n, e)
  | .every first step => (first ≤ e.number && (e.number - first) % max step 1 == 0, e)
  | .last => (e.lines.isEmpty, e)
  | .holding p => match e.patternFor p with
    | (some p, e) => (p.occursIn e.line, e)
    | (none, e) => (false, e)
  | .later _ | .multiple _ => (false, e)

/-- the number of the last line of a range that begins at a line, if it is known then -/
def lastOfRange (number : Nat) : LineMark → Option Nat
  | .number n => some n
  | .later n => some (number + n)
  | .multiple n => some (if n = 0 then number else (number / n + 1) * n)
  | _ => none

/-- is an instruction with a range for the line, and which ranges go on -/
def isInRange (e : Editing) (place : Nat) (first final : LineMark) : Bool × Editing :=
  let others := e.within.filter (·.1 != place)
  match e.within.lookup place with
  | some (some n) =>
    (e.number ≤ n, { e with within := if e.number < n then e.within else others })
  | some none =>
    let (ends, e) := e.isAt final
    (true, if ends then { e with within := others } else e)
  | none =>
    let (begins, e) := e.isAt first
    if !begins then (false, e)
    else match lastOfRange e.number final with
      | some n => (true, if e.number < n then { e with within := (place, some n) :: others } else e)
      | none => (true, { e with within := (place, none) :: others })

/-- is an instruction for the line, and the editing after that is looked at -/
def asked (e : Editing) (place : Nat) (i : Instruction) : Bool × Editing :=
  let (applies, e) := match i.first, i.last with
    | none, _ => (true, e)
    | some m, none => e.isAt m
    | some m, some n => e.isInRange place m n
  (applies != i.inverted, e)

/-- is a text changed at the end of its range only? -/
def changesLater (e : Editing) (place : Nat) (i : Instruction) : Bool :=
  i.last.isSome && !i.inverted && (e.within.lookup place).isSome

/-- the ranges that go on before the first line -/
def openRanges (script : List Instruction) : List (Nat × Option Nat) :=
  (script.mapIdx fun place i => (place, i)).filterMap fun (place, i) => match i.first with
    | some (.number 0) => some (place, none)
    | _ => none

/-! ## the script -/

/-- did a command run for ever? -/
def hasEnded (e : Editing) : Bool :=
  match e.finished with
  | some .never => true
  | _ => false

/-- the script from a place on done to the line; one that takes too many steps never ends -/
def through (r : EditRules) : Nat → Nat → Editing → Editing × Turn
  | 0, _, e => ({ e with finished := some .never }, .finish false)
  | fuel + 1, place, e => match r.script[place]? with
    | none => (e, .finish true)
    | some i =>
      let (applies, e) := e.asked place i
      if e.lacksPattern then (e, .finish false)
      else match applies, i.deed with
        | false, .block size => through r fuel (place + 1 + size) e
        | false, _ => through r fuel (place + 1) e
        | true, .changeText t =>
          if e.changesLater place i then (e, .finish false) else e.done r (.changeText t)
        | true, .jump case name =>
          let jumps := match case with
            | .always => true
            | .replaced => e.replaced
            | .notReplaced => !e.replaced
          let e := if case = .always then e else { e with replaced := false }
          let target := (Script.labelPlace? r.script name).getD r.script.length
          through r fuel (if jumps then target else place + 1) e
        | true, d => match e.done r d with
          | (e, .goOn) =>
            if e.hasEnded then (e, .finish false) else through r fuel (place + 1) e
          | turned => turned

/-- how often each instruction is carried out for one line of so many characters at most -/
def repetitions (size : Nat) : Nat := size + 1000

/-- the lines edited one after the other; `steps` bounds the instructions for one line, `fuel` how
often the script begins -/
def all (r : EditRules) (steps : Nat) : Nat → Bool → Editing → Editing
  | 0, _, e => e
  | fuel + 1, takes, e =>
    match if takes then e.advance? r else some e with
    | none => e
    | some e =>
      let (e, turn) := through r steps 0 e
      let e := match turn with
        | .finish shows => (if shows then e.shown r else e).settle r
        | _ => e.settle r
      if e.finished.isSome then e
      else all r steps fuel (match turn with
        | .again => false
        | _ => true) e

/-- more lines edited, from the first number on; what was written stays -/
def goOn (r : EditRules) (e : Editing) (lines : List (Text × Bytes)) : Editing :=
  if e.finished.isSome then e
  else
    let size := total (lines.map (·.2.length)) + lines.length
    all r ((r.script.length + 1) * repetitions size) (size + 1) true
      { e with lines, number := 0, kept := [], within := openRanges r.script }

end Editing
end DatabaseTypes.Filter
