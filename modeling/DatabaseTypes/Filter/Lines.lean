import DatabaseTypes.Filter.Arguments
import DatabaseTypes.Filter.Scene

/-!
# Filters of lines

* `Filter.copying`      copy files, with numbers and marks
* `Filter.spreading`    copy the input into files
* `Filter.counting`     numbers of lines, words and bytes
-/

namespace DatabaseTypes.Filter

/-! ## lines with ends of any kind -/

/-- the character that ends lines, as options ask for it -/
def feedOf (a : Arguments) : Char := if a.has 'z' then '\x00' else '\n'

/-- the lines of bytes, which some byte ends, without it -/
def bareLinesBy (feed : Char) (bs : Bytes) : List Text :=
  let b := UInt8.ofNat feed.toNat
  (piecesOf b bs).map fun l => asText (l.filter (· != b))

/-- lines with the character that ends them -/
def withFeedsOf (feed : Char) (ls : List Text) : Bytes := asBytes (ls.flatMap (· ++ [feed]))

/-- the names in bytes, each of which a null ends -/
def listedNames (bs : Bytes) : List Text := (piecesOf 0 bs).map fun n => Text.ofBytesShowing (n.filter (· != 0))

/-! ## copying -/

/-- a number in a column -/
def column (width n : Nat) : Text :=
  let digits := Text.ofNat n
  Text.spaces (width - digits.length) ++ digits

/-- the bytes of several operands -/
def joinedBytes (os : List (Text × Bytes)) : Bytes := os.flatMap (·.2)

/-- how lines are copied -/
structure CopyStyle where
  numbersAll : Bool := false
  numbersFilled : Bool := false
  squeezes : Bool := false
  marksEnds : Bool := false
  marksTabs : Bool := false
  marksControls : Bool := false

/-- the style that options ask for -/
def CopyStyle.ofArguments (a : Arguments) : CopyStyle :=
  let any (letters : Text) : Bool := letters.any a.has
  { numbersAll := a.has 'n' && !a.has 'b', numbersFilled := a.has 'b', squeezes := a.has 's'
    marksEnds := any "EAe", marksTabs := any "TAt", marksControls := any "vAet" }

/-- a byte as it is copied -/
def CopyStyle.byte (c : CopyStyle) (b : UInt8) : Bytes :=
  let low (b : UInt8) : Bytes := if b < 32 then [94, b + 64] else if b = 127 then [94, 63] else [b]
  if b = 9 then if c.marksTabs then [94, 73] else [b]
  else if !c.marksControls then [b]
  else if b < 128 then low b
  else [77, 45] ++ low (b - 128)

/-- a line with its line feed as it is copied, after its number -/
def CopyStyle.line (c : CopyStyle) (number : Option Nat) (l : Bytes) : Bytes :=
  let front := ((number.map fun n => asBytes (column 6 n ++ ['\t'])).getD [])
  let bare := l.filter (· != 10)
  let ended := l.getLast? == some 10
  front ++ bare.flatMap c.byte ++ (if ended then (if c.marksEnds then [36, 10] else [10]) else [])

/-- lines as they are copied; `number` is the next number, and `blank` tells whether the line before
was blank -/
def CopyStyle.lines (c : CopyStyle) (number : Nat) (blank : Bool) : List Bytes → Bytes
  | [] => []
  | l :: ls =>
    let isBlank := l == [10]
    if c.squeezes && blank && isBlank then c.lines number true ls
    else if c.numbersAll || (c.numbersFilled && !isBlank) then
      c.line (some number) l ++ c.lines (number + 1) isBlank ls
    else c.line none l ++ c.lines number isBlank ls

/-- the options of copying -/
def copyLetters : Letters where
  plain := "AbeEnstTuv"
  words := [("number-nonblank", 'b'), ("number", 'n'), ("squeeze-blank", 's'),
    ("show-nonprinting", 'v'), ("show-ends", 'E'), ("show-tabs", 'T'), ("show-all", 'A')]

/-- copy files one after the other -/
def copying : Program := withArguments copyLetters fun s a input =>
  let style := CopyStyle.ofArguments a
  s.across Scene.plainly 1 a.operands input fun os =>
    if a.options.isEmpty then joinedBytes os else style.lines 1 false (byteLines (joinedBytes os))

/-- where a copy goes: the output, the messages or a file -/
def spreadTo (appends : Bool) (s : Scene) (input : Bytes) (o : Outcome) (t : Text) : Outcome :=
  if t = "/dev/stdout" then { o with output := o.output ++ input }
  else if t = "/dev/stderr" then { o with errors := o.errors ++ input }
  else
    let change (old : Bytes) : Bytes := if appends then old ++ input else input
    match Scene.written { s with files := o.files.getD s.files } t change with
    | .ok files => { o with files := some files }
    | .error cause =>
      { o with errors := o.errors ++ remark s.called (Scene.plainly t cause), ending := .status 1 }

/-- copy the input into files, one after the other, and write it -/
def spreading : Program :=
  withArguments { plain := "aip", words := [("append", 'a'), ("ignore-interrupts", 'i')] } fun s a input =>
  a.operands.foldl (spreadTo (a.has 'a') s input) { output := input }

/-! ## counting -/

/-- the number of words in bytes -/
def wordCount (bs : Bytes) : Nat :=
  ((bs.map fun b => if b = 32 || (9 ≤ b && b ≤ 13) then 32 else b).splitOn 32).countP (!·.isEmpty)

/-- how wide the widest line of bytes is; a tab goes on to the next multiple of eight -/
def widestLine (bs : Bytes) : Nat :=
  let (widest, own) := bs.foldl (fun ((widest, own) : Nat × Nat) b =>
    if b = 10 || b = 12 || b = 13 then (max widest own, 0)
    else if b = 9 then (widest, own / 8 * 8 + 8)
    else if 32 ≤ b && b ≤ 126 then (widest, own + 1) else (widest, own)) (0, 0)
  max widest own

/-- the numbers that options ask for: lines, words and bytes without options -/
def countsOf (a : Arguments) (bs : Bytes) : List Nat :=
  let all := !("lwcmL".toList.any a.has)
  let given (c : Char) (usual : Bool) (n : Nat) : List Nat := if (all && usual) || a.has c then [n] else []
  given 'l' true (bs.count 10) ++ given 'w' true (wordCount bs) ++ given 'm' false bs.length
    ++ given 'c' true bs.length ++ given 'L' false (widestLine bs)

/-- numbers in columns of a width, and the name that they are for -/
def countLine (width : Nat) (counts : List Nat) (name : Text) : Text :=
  Text.joined [' '] (counts.map (column width)) ++ (if name.isEmpty then [] else ' ' :: name) ++ ['\n']

/-- the options of counting; the one that names a file of names has no letter of its own -/
def countLetters : Letters where
  plain := "lwcmL"
  valued := ['\x01']
  words := [("bytes", 'c'), ("chars", 'm'), ("lines", 'l'), ("words", 'w'), ("max-line-length", 'L'),
    ("files0-from", '\x01')]

/-- count lines, words and bytes of operands; a directory has none -/
def countingOf (s : Scene) (a : Arguments) (input : Bytes) : Outcome :=
  let (os, left) := s.operands a.operands input
  let counted := os.filterMap fun o => match o.2 with
    | .ok bytes => some (o.1, bytes)
    | .error cause => if cause = .isDirectory then some (o.1, []) else none
  let errors := os.flatMap fun o => match o.2 with
    | .ok _ => []
    | .error cause => remark s.called (Scene.plainly o.1 cause)
  let total := joinedBytes counted
  let lone := (countsOf a total).length = 1 && a.operands.length ≤ 1
  let digits := (Text.ofNat total.length).length
  let isInput (t : Text) : Bool := t == ['-'] || Scene.inputPaths.contains t
  let streams := a.operands.isEmpty || a.operands.any isInput || os.any fun o =>
    match o.2 with
    | .error .isDirectory => true
    | _ => false
  let width := if lone then 1 else if streams then max 7 digits else digits
  let name (t : Text) : Text := if a.operands.isEmpty then [] else t
  let lines := counted.map fun o => countLine width (countsOf a o.2) (name o.1)
  let sum := if 1 < a.operands.length then [countLine width (countsOf a total) "total"] else []
  { ending := .status (if errors.isEmpty then 0 else 1)
    output := Text.toBytes (lines ++ sum).flatten, errors, left }

/-- a list of names without the empty ones, and what is wrong with these; `number` is the number of the
first name.  A dash stands for no file if the names come from the input -/
def sortedNames (s : Scene) (source : Text) (number : Nat) : List Text → List Text × Bytes
  | [] => ([], [])
  | t :: ts =>
    let (names, errors) := sortedNames s source (number + 1) ts
    if t.isEmpty then
      (names, remark s.called (source ++ [':'] ++ Text.ofNat number ++ ": invalid zero-length file name") ++ errors)
    else if t = ['-'] ∧ source = ['-'] then
      (names, remark s.called "when reading file names from stdin, no file name of '-' allowed" ++ errors)
    else (t :: names, errors)

/-- count lines, words and bytes of files whose names stand in a file -/
def countingNamed (s : Scene) (a : Arguments) (source : Text) (input : Bytes) : Outcome :=
  match a.operands, s.operands [source] input with
  | extra :: _, _ =>
    s.misuse ("extra operand '" ++ extra ++ "'\nfile operands cannot be combined with --files0-from") input
  | [], ([(_, .ok bytes)], left) =>
    let (names, errors) := sortedNames s source 1 (listedNames bytes)
    let o := if names.isEmpty then {} else countingOf s { a with operands := names } left
    { o with
      ending := .status (if errors.isEmpty && o.ending = .status 0 then 0 else 1), errors := errors ++ o.errors }
  | [], ((_, .error cause) :: _, _) =>
    if cause = .isDirectory then s.complaint (source ++ ": read error: " ++ cause.message) input
    else s.complaint ("cannot open '" ++ source ++ "' for reading: " ++ cause.message) input
  | [], _ => {}

/-- count lines, words and bytes -/
def counting : Program := withArguments countLetters fun s a input =>
  match a.value? '\x01' with
  | some source => countingNamed s a source input
  | none => countingOf s a input

end DatabaseTypes.Filter
