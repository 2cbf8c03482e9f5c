import DatabaseTypes.Filter.Lines

/-!
# Tabs, and long lines broken

* `Filter.FoldStyle`       where lines are broken
* `Filter.FoldStyle.lines` bytes with their lines broken
* `Filter.folding`         the filter
* `Filter.TabStops`           the columns to which tabs go on
* `Filter.TabStops.ofText`    the stops that a list of numbers means
* `Filter.TabStops.after?`    the next stop after a column
* `Filter.expanding`, `Filter.contracting`   spaces in place of tabs, and tabs in place of spaces
-/

namespace DatabaseTypes.Filter

/-! ## long lines -/

/-- where lines are broken: after how many columns, whether every byte is a column, and whether lines
are broken at blanks if they have any -/
structure FoldStyle where
  width : Nat := 80
  bytes : Bool := false
  atBlanks : Bool := false

/-- is a byte a space or a tab? -/
def isSpacing (b : UInt8) : Bool := b == 32 || b == 9

/-- the column after a byte: a tab goes on to the next multiple of eight -/
def columnAfter (column : Nat) (b : UInt8) : Nat :=
  if b = 8 then column - 1
  else if b = 13 then 0
  else if b = 9 then column / 8 * 8 + 8
  else column + 1

namespace FoldStyle

/-- the column after a byte -/
def after (f : FoldStyle) (column : Nat) (b : UInt8) : Nat :=
  if f.bytes then column + 1 else columnAfter column b

/-- what is broken: the pieces so far with their feeds and the piece begun, both with the last one
first, and the column after the piece -/
structure Broken where
  pieces : Bytes := []
  piece : Bytes := []
  column : Nat := 0

/-- what is broken, with a feed after the piece begun -/
def Broken.ended (w : Broken) : Broken := { pieces := 10 :: (w.piece ++ w.pieces) }

/-- a byte at the end of the piece begun -/
def Broken.longer (f : FoldStyle) (w : Broken) (b : UInt8) : Broken :=
  { w with piece := b :: w.piece, column := f.after w.column b }

/-- a byte at the end of the piece begun, or of the next one -/
def Broken.fitted (f : FoldStyle) (w : Broken) (b : UInt8) : Broken :=
  if f.after w.column b ≤ f.width || w.piece.isEmpty then w.longer f b else w.ended.longer f b

/-- a byte at its place; a piece that it does not fit is broken after its last blank if it may be -/
def Broken.step (f : FoldStyle) (w : Broken) (b : UInt8) : Broken :=
  if b = 10 then w.ended
  else if f.after w.column b ≤ f.width || !f.atBlanks then w.fitted f b
  else
    let last := w.piece.takeWhile fun c => !isSpacing c
    let front := w.piece.drop last.length
    if front.isEmpty then w.fitted f b
    else
      let begun : Broken := { pieces := 10 :: (front ++ w.pieces) }
      (last.reverse.foldl (Broken.longer f) begun).fitted f b

/-- bytes with their lines broken -/
def lines (f : FoldStyle) (bs : Bytes) : Bytes :=
  let w := bs.foldl (Broken.step f) {}
  (w.piece ++ w.pieces).reverse

/-- nothing is broken where there is nothing -/
theorem lines_nil (f : FoldStyle) : f.lines [] = [] := rfl

/-- what is broken, without the feeds that break it, is all that was there: a byte comes after the
pieces and the piece begun -/
theorem fitted_bytes (f : FoldStyle) (w : Broken) (b : UInt8) (h : b ≠ 10) :
    ((w.fitted f b).piece ++ (w.fitted f b).pieces).filter (· != 10)
      = b :: (w.piece ++ w.pieces).filter (· != 10) := by
  unfold Broken.fitted
  split <;> simp [Broken.longer, Broken.ended, h]

end FoldStyle

/-! ## the filter -/

/-- the options of folding; digits are a width -/
def foldLetters : Letters where
  plain := "bs"
  valued := "w"
  optional := "0123456789"
  words := [("bytes", 'b'), ("spaces", 's'), ("width", 'w')]

/-- the value of an option for a number; digits that are options themselves belong to the number -/
def numberOption? (a : Arguments) (c : Char) : Option Text :=
  (a.options.reverse.find? fun o => o.1 == c || Text.isDigit o.1).map fun o =>
    if o.1 = c then o.2 else o.1 :: o.2

/-- break lines that are too long -/
def folding : Program := withArguments foldLetters fun s a input =>
  match ((numberOption? a 'w').map (bounded "invalid number of columns" 1 greatestSize)).getD (.ok 80) with
  | .error t => s.complaint t input
  | .ok width =>
    let f : FoldStyle := { width, bytes := a.has 'b', atBlanks := a.has 's' }
    s.across Scene.plainly 1 a.operands input fun os => os.flatMap fun o => f.lines o.2

/-! ## tabs -/

/-- the columns to which tabs go on, and how far apart the stops after the last of them are, if there
are any: counted from the front of the line or from the last one -/
structure TabStops where
  columns : List Nat := []
  fromFront : Nat := 0
  fromLast : Nat := 0

namespace TabStops

/-! ## reading -/

/-- a list that is being read: the stops so far, the number begun, and the sign before it -/
structure Listing where
  stops : TabStops := {}
  number : Option Nat := none
  sign : Option Char := none
  faults : List Text := []

/-- the number begun, taken as a stop -/
def Listing.taken (l : Listing) : Listing :=
  match l.number with
  | none => l
  | some n =>
    let only (c : Char) : Text := "'" ++ [c] ++ "' specifier only allowed with the last value"
    let l := { l with number := none }
    if l.sign = some '/' then
      { l with
        stops := { l.stops with fromFront := n }
        faults := l.faults ++ if l.stops.fromFront = 0 then [] else [only '/'] }
    else if l.sign = some '+' then
      { l with
        stops := { l.stops with fromLast := n }
        faults := l.faults ++ if l.stops.fromLast = 0 then [] else [only '+'] }
    else { l with stops := { l.stops with columns := l.stops.columns ++ [n] } }

/-- the list after a text -/
def Listing.reading (l : Listing) : Text → Listing
  | [] => l.taken
  | c :: t =>
    if c = ',' ∨ c = ' ' ∨ c = '\t' then l.taken.reading t
    else if c = '/' ∨ c = '+' then
      let fault : Text := "'" ++ [c] ++ "' specifier not at start of number: '" ++ (c :: t) ++ "'"
      reading { l with sign := some c, faults := l.faults ++ if l.number.isSome then [fault] else [] } t
    else if Text.isDigit c then
      reading { l with number := some (10 * l.number.getD 0 + (c.toNat - '0'.toNat)) } t
    else { l with faults := l.faults ++ ["tab size contains invalid character(s): '" ++ (c :: t) ++ "'"] }

/-- what is wrong with stops as a whole -/
def fault? (s : TabStops) : Option Text :=
  if s.columns.head? = some 0 then some "tab size cannot be 0"
  else if (s.columns.zip (s.columns.drop 1)).any fun p => p.2 ≤ p.1 then
    some (if s.columns.contains 0 then "tab size cannot be 0" else "tab sizes must be ascending")
  else if s.fromFront ≠ 0 ∧ s.fromLast ≠ 0 then some "'/' specifier is mutually exclusive with '+'"
  else none

/-- stops by their lists; a single number means stops that are so far apart, and none at all stops
that are eight columns apart -/
def ofLists (ts : List Text) : Except (List Text) TabStops :=
  let l := ts.foldl (fun (l : Listing) t => { l with number := none, sign := none }.reading t) {}
  let s := l.stops
  if !l.faults.isEmpty then .error l.faults
  else match s.fault? with
    | some t => .error [t]
    | none => match s.columns, s.fromFront, s.fromLast with
      | [], 0, 0 => .ok { fromFront := 8 }
      | [], 0, n => .ok { fromFront := n }
      | [n], 0, 0 => .ok { fromFront := n }
      | _, _, _ => .ok s

/-! ## stops -/

/-- the next stop after a column, if there is one -/
def after? (s : TabStops) (column : Nat) : Option Nat :=
  match s.columns.find? (column < ·) with
  | some n => some n
  | none =>
    if s.fromFront ≠ 0 then some (column + (s.fromFront - column % s.fromFront))
    else if s.fromLast ≠ 0 then
      some (column + (s.fromLast - (column - s.columns.getLast?.getD 0) % s.fromLast))
    else none

/-- the next stop lies after the column -/
theorem lt_of_after? {s : TabStops} {column n : Nat} (h : s.after? column = some n) : column < n := by
  unfold after? at h
  split at h
  · next m hm =>
    have : (decide (column < m)) = true := List.find?_some (p := fun n => decide (column < n)) hm
    simp at h this
    omega
  · split at h
    · next h0 =>
      have := Nat.mod_lt column (Nat.pos_of_ne_zero h0)
      simp at h
      omega
    · split at h
      · next h0 =>
        have := Nat.mod_lt (column - s.columns.getLast?.getD 0) (Nat.pos_of_ne_zero h0)
        simp at h
        omega
      · simp at h

end TabStops

/-! ## spaces in place of tabs -/

/-- a line with spaces in place of its tabs; `free` tells whether tabs are still replaced, which only
those before all else are if not `all` -/
def expandedLine (stops : TabStops) (all : Bool) : Bool → Nat → Bytes → Bytes
  | _, _, [] => []
  | free, column, b :: bs =>
    if !free then b :: expandedLine stops all free column bs
    else if b = 9 then
      let next := (stops.after? column).getD (column + 1)
      List.replicate (next - column) 32 ++ expandedLine stops all true next bs
    else b :: expandedLine stops all (all || b == 32) (if b = 8 then column - 1 else column + 1) bs

/-- the options of expanding; digits are a list of stops -/
def expandLetters : Letters where
  plain := "i"
  valued := "t"
  optional := "0123456789"
  words := [("initial", 'i'), ("tabs", 't')]

/-- the lists of stops that options give -/
def stopLists (a : Arguments) : List Text :=
  a.options.filterMap fun o =>
    if o.1 = 't' then some o.2 else if Text.isDigit o.1 then some (o.1 :: o.2) else none

/-- an end with messages -/
def Scene.complaints (s : Scene) (messages : List Text) (input : Bytes) : Outcome :=
  { ending := .status 1, errors := messages.flatMap (remark s.called), left := input }

/-- write spaces in place of tabs -/
def expanding : Program := withArguments expandLetters fun s a input =>
  match TabStops.ofLists (stopLists a) with
  | .error ts => s.complaints ts input
  | .ok stops =>
    s.across Scene.plainly 1 a.operands input fun os =>
      (byteLines (joinedBytes os)).flatMap (expandedLine stops (!a.has 'i') true 0)

/-! ## tabs in place of spaces -/

/-- a line whose blanks are being replaced: what is written with the last byte first, the blanks after
it, whether the first of these stands just before a stop, whether the byte before was a blank, and
whether blanks are still replaced -/
structure Contracted where
  written : Bytes := []
  pending : Bytes := []
  single : Bool := false
  afterBlank : Bool := true
  free : Bool := true
  column : Nat := 0

namespace Contracted

/-- the blanks written, as one tab if the first of several stands just before a stop -/
def settled (w : Contracted) : Contracted :=
  let pending := if 1 < w.pending.length && w.single then 9 :: w.pending.drop 1 else w.pending
  { w with written := pending.reverse ++ w.written, pending := [], single := false }

/-- a byte written after the blanks; `blank` tells whether it is a blank itself -/
def put (all : Bool) (w : Contracted) (blank : Bool) (b : UInt8) : Contracted :=
  let w := w.settled
  { w with written := b :: w.written, afterBlank := blank, free := w.free && (all || blank) }

/-- the blanks without all but the single one before a stop -/
def shortened (w : Contracted) : Contracted :=
  { w with pending := w.pending.take (if w.single then 1 else 0) }

/-- the line after a byte -/
def step (stops : TabStops) (all : Bool) (w : Contracted) (b : UInt8) : Contracted :=
  if !w.free then { w with written := b :: w.written }
  else if isSpacing b then
    match stops.after? w.column with
    | none => put all { w with free := false } true b
    | some next =>
      let tabbed (w : Contracted) : Contracted :=
        { w with pending := if w.pending.isEmpty then [] else 9 :: w.pending.drop 1 }
      if b = 9 then put all (tabbed { w with column := next }).shortened true b
      else if w.afterBlank && w.column + 1 == next then
        put all (tabbed { w with column := next }).shortened true 9
      else
        { w with
          column := w.column + 1, single := w.single || w.column + 1 == next
          pending := w.pending ++ [b], afterBlank := true }
  else put all { w with column := if b = 8 then w.column - 1 else w.column + 1 } false b

/-- a line with tabs in place of blanks -/
def line (stops : TabStops) (all : Bool) (bs : Bytes) : Bytes :=
  (bs.foldl (step stops all) {}).settled.written.reverse

end Contracted

/-- the options of contracting; digits are a list of stops -/
def contractLetters : Letters where
  plain := "a,0123456789F"
  valued := "t"
  words := [("all", 'a'), ("first-only", 'F'), ("tabs", 't')]

/-- write tabs in place of spaces -/
def contracting : Program := withArguments contractLetters fun s a input =>
  let digits := (a.options.map (·.1)).filter fun c => Text.isDigit c || c == ','
  match TabStops.ofLists (digits :: stopLists { a with options := a.options.filter (·.1 == 't') }) with
  | .error ts => s.complaints ts input
  | .ok stops =>
    let all := (a.has 'a' || a.has 't') && !a.has 'F'
    s.across Scene.plainly 1 a.operands input fun os =>
      (byteLines (joinedBytes os)).flatMap (Contracted.line stops all)

end DatabaseTypes.Filter
