import DatabaseTypes.Filter.Arguments
import DatabaseTypes.Filter.Lines
import DatabaseTypes.Filter.Pattern

/-!
# Lines with numbers

A page has a header, a body and a footer, and marks on lines of their own tell where each begins.

* `Filter.NumberedLines`  which lines have numbers
* `Filter.NumberStyle`    how lines are numbered
* `Filter.numbering`      the filter
-/

namespace DatabaseTypes.Filter

/-- which lines have numbers: all, those that are not empty, none, or those with a match -/
inductive NumberedLines where
  | all
  | filled
  | none
  | with (p : Pattern)

/-- the parts of a page -/
inductive PagePart where
  | header
  | body
  | footer
  deriving DecidableEq

/-- how lines are numbered: which ones, from where on, how far apart, in what shape, how many empty
lines count as one, whether numbers start again with each part of a page, and the mark of parts -/
structure NumberStyle where
  chosen : PagePart → NumberedLines
  first : Int := 1
  step : Int := 1
  width : Nat := 6
  separator : Text := ['\t']
  shape : Text := "rn"
  empties : Nat := 1
  restarts : Bool := true
  mark : Text := ['\\', ':']

namespace NumberStyle

/-- a number in its shape -/
def number (n : NumberStyle) (i : Int) : Text :=
  let digits := Text.ofInt i
  if n.shape = "ln" then digits ++ Text.spaces (n.width - digits.length)
  else if n.shape = "rz" then
    match i with
    | .ofNat m => Text.zeroPadded n.width (Text.ofNat m)
    | .negSucc m => '-' :: Text.zeroPadded (n.width - 1) (Text.ofNat (m + 1))
  else Text.spaces (n.width - digits.length) ++ digits

/-- the part of a page that begins with a line -/
def part? (n : NumberStyle) (l : Text) : Option PagePart :=
  if n.mark.length < 2 then none
  else if l = n.mark ++ n.mark ++ n.mark then some .header
  else if l = n.mark ++ n.mark then some .body
  else if l = n.mark then some .footer
  else none

/-- has a line a number? `empties` is how many empty lines stand before it without one; after it, how
many there are -/
def wants (n : NumberStyle) (part : PagePart) (empties : Nat) (l : Text) : Bool × Nat :=
  match n.chosen part with
  | .all =>
    if n.empties ≤ 1 then (true, empties)
    else if !l.isEmpty || empties + 1 = n.empties then (true, 0)
    else (false, empties + 1)
  | .filled => (!l.isEmpty, empties)
  | .none => (false, empties)
  | .with p => (p.occursIn l, empties)

/-- lines with numbers, from the next number on -/
def lines (n : NumberStyle) (part : PagePart) (next : Int) (empties : Nat) : List Text → List Text
  | [] => []
  | l :: ls =>
    match n.part? l with
    | some part => [] :: n.lines part (if n.restarts then n.first else next) empties ls
    | none =>
      let (numbered, empties) := n.wants part empties l
      if numbered then
        (n.number next ++ n.separator ++ l) :: n.lines part (next + n.step) empties ls
      else
        (Text.spaces (n.width + n.separator.length) ++ l) :: n.lines part next empties ls

end NumberStyle

/-! ## what is asked for -/

/-- which lines an option chooses, if it chooses any; a pattern may be none -/
def NumberedLines.ofText? (t : Text) : Option (Except PatternFault NumberedLines) :=
  match t with
  | 'a' :: _ => some (.ok .all)
  | 't' :: _ => some (.ok .filled)
  | 'n' :: _ => some (.ok .none)
  | 'p' :: t => some ((Pattern.ofText false (asText (Text.toBytes t))).map .with)
  | _ => Option.none

/-- an integer, or what is wrong with the text for it -/
def boundedInteger (what t : Text) : Except Text Int :=
  match t with
  | '-' :: digits => match count? digits with
    | some n => .ok (-n)
    | none => .error (what ++ ": '" ++ t ++ "'")
  | t => (bounded what 0 9223372036854775807 t).map fun (n : Nat) => (n : Int)

/-- a style that options ask for, with what is wrong with them; some faults end the reading -/
structure NumberErrand where
  style : NumberStyle
  faults : List Text := []
  failed : Bool := false

namespace NumberErrand

/-- an errand with one more fault -/
def wrong (e : NumberErrand) (t : Text) : NumberErrand := { e with faults := e.faults ++ [t] }

/-- an errand with a change to its style, or with the fault that ends the reading -/
def changed {α : Type} (e : NumberErrand) (r : Except Text α) (change : NumberStyle → α → NumberStyle) :
    NumberErrand :=
  match r with
  | .ok x => { e with style := change e.style x }
  | .error t => { e.wrong t with failed := true }

/-- an errand with a choice of lines for a part -/
def choosing (e : NumberErrand) (part : PagePart) (what t : Text) : NumberErrand :=
  match NumberedLines.ofText? t with
  | none => e.wrong ("invalid " ++ what ++ " numbering style: '" ++ t ++ "'")
  | some r => e.changed (r.mapError (PatternFault.message false)) fun n ls =>
    { n with chosen := fun p => if p = part then ls else n.chosen p }

/-- an errand with one more option -/
def step (e : NumberErrand) (o : Char × Text) : NumberErrand :=
  let greatest : Nat := 9223372036854775807
  if e.failed then e
  else match o.1 with
    | 'h' => e.choosing .header "header" o.2
    | 'b' => e.choosing .body "body" o.2
    | 'f' => e.choosing .footer "footer" o.2
    | 'v' => e.changed (boundedInteger "invalid starting line number" o.2) fun n first => { n with first }
    | 'i' => e.changed (boundedInteger "invalid line number increment" o.2) fun n step => { n with step }
    | 'p' => { e with style := { e.style with restarts := false } }
    | 'l' => e.changed (bounded "invalid line number of blank lines" 1 greatest o.2) fun n empties =>
      { n with empties }
    | 's' => { e with style := { e.style with separator := asText o.2.toBytes } }
    | 'w' => e.changed (bounded "invalid line number field width" 1 2147483647 o.2) fun n width =>
      { n with width }
    | 'n' =>
      if o.2 = "ln" ∨ o.2 = "rn" ∨ o.2 = "rz" then { e with style := { e.style with shape := o.2 } }
      else e.wrong ("invalid line numbering format: '" ++ o.2 ++ "'")
    | 'd' =>
      let own := asText o.2.toBytes
      let mark := if own.length = 1 then own ++ e.style.mark.drop 1 else own
      { e with style := { e.style with mark } }
    | _ => e

end NumberErrand

/-- the lines that are numbered if no option tells: those of the body that are not empty -/
def NumberStyle.usual : NumberStyle where
  chosen part := if part = .body then .filled else .none

/-- the options of numbering -/
def numberLetters : Letters where
  plain := "p"
  valued := "hbfvilswnd"
  words := [("header-numbering", 'h'), ("body-numbering", 'b'), ("footer-numbering", 'f'),
    ("starting-line-number", 'v'), ("line-increment", 'i'), ("no-renumber", 'p'),
    ("join-blank-lines", 'l'), ("number-separator", 's'), ("number-width", 'w'),
    ("number-format", 'n'), ("section-delimiter", 'd')]

/-- write lines with numbers -/
def numbering : Program := withArguments numberLetters fun s a input =>
  let e := a.options.foldl NumberErrand.step { style := .usual }
  match e.faults.getLast? with
  | some t =>
    let o := if e.failed then s.complaint t input else s.misuse t input
    { o with errors := e.faults.dropLast.flatMap (remark s.called) ++ o.errors }
  | none => s.across Scene.plainly 1 a.operands input fun os =>
    withFeeds (e.style.lines .body e.style.first 0 (bareLines (joinedBytes os)))

end DatabaseTypes.Filter
