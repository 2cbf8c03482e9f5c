import DatabaseTypes.Filter.Lines

/-!
# Lines of several files beside each other

* `Filter.pasting`     lines with the same number beside each other
* `Filter.comparing`   lines that two files in order have alone or share
-/

namespace DatabaseTypes.Filter

/-! ## lines with the same number -/

/-- what stands between lines, in turn; a backslash and a zero are nothing -/
def dividersOf : Text → Option (List Text)
  | [] => some []
  | ['\\'] => none
  | '\\' :: c :: t =>
    let table : List (Char × Char) :=
      [('b', '\x08'), ('f', '\x0c'), ('n', '\n'), ('r', '\r'), ('t', '\t'), ('v', '\x0b')]
    (dividersOf t).map ((if c = '0' then [] else [(table.lookup c).getD c]) :: ·)
  | c :: t => (dividersOf t).map ([c] :: ·)

/-- texts with dividers between them, which come in turn -/
def dividedBy (dividers : List Text) (ts : List Text) : Text :=
  (ts.zipIdx.map fun (t, i) =>
    if i = 0 then t else (dividers[(i - 1) % dividers.length]?).getD [] ++ t).flatten

/-- a single text stands without dividers -/
theorem dividedBy_single (dividers : List Text) (t : Text) : dividedBy dividers [t] = t := by
  simp [dividedBy]

/-- where lines come from: the lines of a file of its own, or the input, which several may share -/
inductive Source where
  | own (ls : List Text)
  | shared
  deriving DecidableEq

/-- the next line of each source, the sources after them, and what is left of the input -/
def nextRow : List Source → List Text → List (Option Text) × List Source × List Text
  | [], input => ([], [], input)
  | .own ls :: ss, input =>
    let (row, ss, input) := nextRow ss input
    (ls.head? :: row, .own (ls.drop 1) :: ss, input)
  | .shared :: ss, input =>
    let (row, ss, left) := nextRow ss (input.drop 1)
    (input.head? :: row, .shared :: ss, left)

/-- rows of lines beside each other as long as there is one; each step uses up a line -/
def rowsOf (dividers : List Text) : Nat → List Source → List Text → List Text
  | 0, _, _ => []
  | fuel + 1, ss, input =>
    let (row, ss, input) := nextRow ss input
    if row.all Option.isNone then []
    else dividedBy dividers (row.map (·.getD [])) :: rowsOf dividers fuel ss input

/-- the options of pasting -/
def pasteLetters : Letters where
  plain := "sz"
  valued := "d"
  words := [("delimiters", 'd'), ("serial", 's'), ("zero-terminated", 'z')]

/-- write lines with the same number beside each other, or all lines of each file -/
def pasting : Program := withArguments pasteLetters fun s a input =>
  let given := (a.value? 'd').getD ['\t']
  let feed := feedOf a
  match dividersOf (if given.isEmpty then ['\\', '0'] else asText given.toBytes) with
  | none => s.complaint ("delimiter list ends with an unescaped backslash: " ++ given) input
  | some dividers =>
    let lines (bs : Bytes) : List Text := bareLinesBy feed bs
    if a.has 's' then
      s.across Scene.plainly 1 a.operands input fun os =>
        withFeedsOf feed (os.map fun o => dividedBy dividers (lines o.2))
    else
      let operands := if a.operands.isEmpty then [['-']] else a.operands
      let found := operands.map fun t => (t, if t = ['-'] then .ok [] else s.read t)
      let isLost (cause : SystemCause) : Bool := cause != .isDirectory
      match found.findSome? fun o => match o.2 with
          | .error cause => if isLost cause then some (Scene.plainly o.1 cause) else none
          | .ok _ => none with
      | some t => s.complaint t input
      | none =>
        let sources := found.map fun o =>
          if o.1 = ['-'] then Source.shared else .own ((o.2.toOption.map lines).getD [])
        let size := total (found.map fun o => ((o.2.toOption.map List.length).getD 0)) + input.length
        let errors := found.flatMap fun o => match o.2 with
          | .error cause => remark s.called (Scene.plainly o.1 cause)
          | .ok _ => []
        { ending := .status (if errors.isEmpty then 0 else 1), errors
          output := withFeedsOf feed (rowsOf dividers (size + 1) sources (lines input))
          left := if operands.contains ['-'] then [] else input }

/-! ## lines that files share -/

/-- lines of two files that are compared: what is written, the messages, whether a line stands alone
so far, which files were found out of order, and how many lines were of each kind -/
structure Compared where
  written : List Text := []
  lone : Bool := false
  disordered : List Nat := []
  counts : Nat × Nat × Nat := (0, 0, 0)

/-- how the lines of two files are compared: which columns are left out, what stands before lines in
later columns, and whether the order is checked always or never -/
structure CompareStyle where
  hidden : Text := []
  divider : Text := ['\t']
  checks : Option Bool := none

namespace CompareStyle

/-- a line in one of the three columns, if that is not left out -/
def columned (c : CompareStyle) (column : Char) (l : Text) : List Text :=
  if c.hidden.contains column then []
  else
    let before : Text := if column = '1' then [] else if column = '2' then ['1'] else ['1', '2']
    [((before.filter fun d => !c.hidden.contains d).flatMap fun _ => c.divider) ++ l]

/-- what is known of the order of a file after one of its lines -/
def checked (c : CompareStyle) (w : Compared) (file : Nat) (before line : Option Text) : Compared :=
  match before, line with
  | some m, some l =>
    if c.checks.getD w.lone && !w.disordered.contains file && !m.atMost l
    then { w with disordered := w.disordered ++ [file] } else w
  | _, _ => w

/-- the order of a file, once a line of it is taken: the next one is looked at, or the last two of it -/
def stepped (c : CompareStyle) (w : Compared) (file : Nat) (before : Option Text) (ls : List Text) :
    Compared :=
  match ls with
  | l :: m :: _ => c.checked w file (some l) (some m)
  | [l] => c.checked w file before (some l)
  | [] => w

/-- the lines of two files compared; each step uses up a line.  The texts are the lines before. -/
def compare (c : CompareStyle) : Nat → Option Text → Option Text → List Text → List Text → Compared →
    Compared
  | 0, _, _, _, _, w => w
  | fuel + 1, p, q, ls, ms, w =>
    if c.checks = some true ∧ !w.disordered.isEmpty then w
    else
      let add (column : Char) (l : Text) (w : Compared) : Compared :=
        { w with written := (c.columned column l).reverse ++ w.written }
      let first (l : Text) (rest : List Text) : Compared :=
        let w := add '1' l { w with lone := true, counts := (w.counts.1 + 1, w.counts.2) }
        compare c fuel (some l) q rest ms (c.stepped w 1 p (l :: rest))
      let second (m : Text) (rest : List Text) : Compared :=
        let w := add '2' m { w with lone := true, counts := (w.counts.1, w.counts.2.1 + 1, w.counts.2.2) }
        compare c fuel p (some m) ls rest (c.stepped w 2 q (m :: rest))
      match ls, ms with
      | [], [] => w
      | l :: rest, [] => first l rest
      | [], m :: rest => second m rest
      | l :: ls', m :: ms' =>
        if l = m then
          let w := add '3' m { w with counts := (w.counts.1, w.counts.2.1, w.counts.2.2 + 1) }
          let w := c.stepped w 1 p (l :: ls')
          let w := if c.checks = some true ∧ !w.disordered.isEmpty then w else c.stepped w 2 q (m :: ms')
          compare c fuel (some l) (some m) ls' ms' w
        else if l.atMost m then first l ls' else second m ms'

end CompareStyle

/-- a filter for two files: their bytes, or why there are none -/
def withTwoFiles (s : Scene) (operands : List Text) (input : Bytes)
    (perform : Bytes → Bytes → Bytes → Outcome) : Outcome :=
  match operands with
  | [] => s.misuse "missing operand" input
  | [t] => s.misuse ("missing operand after '" ++ t ++ "'") input
  | [t, u] => match s.operands [t, u] input with
    | ([(_, .ok bs), (_, .ok cs)], left) => perform bs cs left
    | ([(t, .error cause), _], _) => s.complaint (Scene.plainly t cause) input
    | ([_, (u, .error cause)], _) => s.complaint (Scene.plainly u cause) input
    | _ => {}
  | _ :: _ :: extra :: _ => s.misuse ("extra operand '" ++ extra ++ "'") input

/-- the options of comparing -/
def compareLetters : Letters where
  plain := "123czCt"
  valued := "d"
  words := [("check-order", 'c'), ("nocheck-order", 'C'), ("output-delimiter", 'd'), ("total", 't'),
    ("zero-terminated", 'z')]

/-- tell which lines two files in order have alone and which they share -/
def comparing : Program := withArguments compareLetters fun s a input =>
  withTwoFiles s a.operands input fun bs cs left =>
    let feed := feedOf a
    let divider := (a.value? 'd').getD ['\t']
    let c : CompareStyle := {
      hidden := "123".toList.filter a.has
      divider := if divider.isEmpty then ['\x00'] else asText divider.toBytes
      checks := (a.options.reverse.find? fun o => o.1 == 'c' || o.1 == 'C').map (·.1 == 'c') }
    let ls := bareLinesBy feed bs
    let ms := bareLinesBy feed cs
    let w := c.compare (ls.length + ms.length + 1) none none ls ms {}
    let stopped := c.checks = some true && !w.disordered.isEmpty
    let (m, n, o) := w.counts
    let sum := if a.has 't' && !stopped
      then [Text.joined c.divider [Text.ofNat m, Text.ofNat n, Text.ofNat o, "total"]] else []
    let told := w.disordered.flatMap fun file =>
      remark s.called ("file " ++ Text.ofNat file ++ " is not in sorted order")
    let own := if told.isEmpty || stopped then [] else remark s.called "input is not in sorted order"
    { ending := .status (if told.isEmpty then 0 else 1), errors := told ++ own, left
      output := withFeedsOf feed (w.written.reverse ++ sum) }

end DatabaseTypes.Filter
