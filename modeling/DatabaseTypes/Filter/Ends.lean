import DatabaseTypes.Filter.Arguments
import DatabaseTypes.Filter.Lines

/-!
# The ends of files

The first and the last part of files, in lines or in bytes.

* `Filter.Extent`      how much of a file is meant
* `Filter.leading`     write the first part of files
* `Filter.trailing`    write the last part of files
-/

namespace DatabaseTypes.Filter

/-! ## extents -/

/-- how much of a file is meant: so many lines or bytes, or all but so many; `feed` ends a line -/
structure Extent where
  bytes : Bool := false
  number : Nat := 10
  allBut : Bool := false
  feed : UInt8 := 10

namespace Extent

/-- a file in lines or in bytes -/
def pieces (e : Extent) (input : Bytes) : List Bytes :=
  if e.bytes then input.map fun b => [b] else piecesOf e.feed input

/-- the pieces are the file -/
theorem pieces_flatten (e : Extent) (input : Bytes) : (e.pieces input).flatten = input := by
  unfold pieces
  split
  · induction input with
    | nil => rfl
    | cons b bs ih => rw [List.map_cons, List.flatten_cons, ih]; rfl
  · exact piecesOf_flatten e.feed input

/-- the first part of a file -/
def leading (e : Extent) (input : Bytes) : Bytes :=
  let ps := e.pieces input
  (ps.take (if e.allBut then ps.length - e.number else e.number)).flatten

/-- the last part of a file, or what stands after all but one of the pieces -/
def trailing (e : Extent) (input : Bytes) : Bytes :=
  let ps := e.pieces input
  (ps.drop (if e.allBut then e.number - 1 else ps.length - e.number)).flatten

/-- all but none from the front is everything -/
theorem leading_allBut_zero (e : Extent) (input : Bytes) :
    ({ e with allBut := true, number := 0 } : Extent).leading input = input := by
  simp only [leading, if_true, Nat.sub_zero, List.take_length]
  exact pieces_flatten _ input

end Extent

/-- what is asked of a filter for parts of files: how much of them is meant, whether names are wanted or
not, whether files are followed as they grow, by name if so, and until which program ends -/
structure EndErrand where
  extent : Extent := {}
  named : Option Bool := none
  follows : Bool := false
  byName : Bool := false
  retries : Bool := false
  owner : Option Nat := none

namespace EndErrand

/-- the units of parts -/
def units : Text := "bkKmMGTPEZY0"

/-- what is asked for with an extent in lines or bytes; a sign may turn it round -/
def measured (e : EndErrand) (sign : Char) (bytes : Bool) (t : Text) : Except Text EndErrand := do
  let signed := t.head? = some sign || t.head? = some '-'
  let what : Text := if bytes then "invalid number of bytes" else "invalid number of lines"
  let own := if signed && !(sign = '+' && t.head? = some '+') then t.drop 1 else t
  let number ← boundedWith units what 0 greatestSize own
  pure { e with extent := { e.extent with bytes, number, allBut := t.head? = some sign } }

/-- why the names of files are asked for, or not -/
def listed (e : EndErrand) (operands : List Text) : Bool := e.named.getD (1 < operands.length)

end EndErrand

/-! ## parts with names -/

/-- how a file is called above its part -/
def calledInFull (t : Text) : Text := if t = ['-'] then "standard input" else t

/-- parts of files, each below its name if names are asked for; what cannot be opened has no part, and a
directory has one that cannot be read -/
def partsOfOperands (s : Scene) (e : EndErrand) (part : Bytes → Bytes) (ts : List Text) (input : Bytes) :
    Outcome :=
  let (os, left) := s.operands ts input
  let opened := os.filterMap fun o => match o.2 with
    | .ok bytes => some (o.1, part bytes)
    | .error cause => if cause = .isDirectory then some (o.1, []) else none
  let failure (o : Scene.Operand) : Bytes := match o.2 with
    | .ok _ => []
    | .error cause => remark s.called (if cause = .isDirectory
      then "error reading '" ++ o.1 ++ "': " ++ cause.message
      else "cannot open '" ++ o.1 ++ "' for reading: " ++ cause.message)
  let output :=
    if e.listed ts then
      (opened.mapIdx fun i o => (if i = 0 then [] else [10])
        ++ Text.toBytes ("==> " ++ calledInFull o.1 ++ " <==\n") ++ o.2).flatten
    else opened.flatMap (·.2)
  let errors := os.flatMap failure
  { ending := .status (if errors.isEmpty then 0 else 1), output, errors, left }

/-- digits among options stand for a number that is out of place -/
def strayDigit? (args : List Text) : Option Char :=
  args.findSome? fun t => match t with
    | '-' :: c :: _ => if Text.isDigit c then some c else none
    | _ => none

/-! ## the first part -/

/-- the options of the first part -/
def leadingLetters : Letters where
  plain := "qvz"
  valued := "nc"
  words := [("bytes", 'c'), ("lines", 'n'), ("quiet", 'q'), ("silent", 'q'), ("verbose", 'v'),
    ("zero-terminated", 'z')]

/-- what is asked of the first part by one more option -/
def EndErrand.withLeading (e : EndErrand) (o : Char × Text) : Except Text EndErrand :=
  match o.1 with
  | 'n' => e.measured '-' false o.2
  | 'c' => e.measured '-' true o.2
  | 'q' => .ok { e with named := some false }
  | 'v' => .ok { e with named := some true }
  | 'z' => .ok { e with extent := { e.extent with feed := 0 } }
  | _ => .ok e

/-- what letters after a number of lines ask for, or the letter that asks for nothing -/
def EndErrand.withLetter (unit : Option Char) (e : EndErrand) :
    Text → Except Char (Option Char × EndErrand)
  | [] => .ok (unit, e)
  | c :: t =>
    if c = 'c' then withLetter none { e with extent := { e.extent with bytes := true } } t
    else if c = 'b' ∨ c = 'k' ∨ c = 'm' then
      withLetter (some c) { e with extent := { e.extent with bytes := true } } t
    else if c = 'l' then withLetter unit { e with extent := { e.extent with bytes := false } } t
    else if c = 'q' then withLetter unit { e with named := some false } t
    else if c = 'v' then withLetter unit { e with named := some true } t
    else if c = 'z' then withLetter unit { e with extent := { e.extent with feed := 0 } } t
    else .error c

/-- a number at the front of the arguments of the first part -/
def leadingNumber? (args : List Text) : Option (Except Char (Except Text EndErrand) × List Text) :=
  match args with
  | ('-' :: t) :: more =>
    let digits := t.takeWhile Text.isDigit
    if digits.isEmpty then none
    else some ((EndErrand.withLetter none {} (t.drop digits.length)).map (fun (unit, e) =>
      (e.measured '-' e.extent.bytes (digits ++ unit.toList))), more)
  | _ => none

/-- write the first part of files -/
def leading : Program := fun s args input =>
  let stray (c : Char) : Outcome := s.misuse ("invalid trailing option -- " ++ [c]) input
  let go (e : EndErrand) (args : List Text) : Outcome :=
    match Arguments.of leadingLetters args, strayDigit? args with
    | .error (.letter c), _ => if Text.isDigit c then stray c else s.misuse (BadArgument.letter c).message input
    | .error bad, _ => s.misuse bad.message input
    | .ok a, _ => match a.options.foldlM EndErrand.withLeading e with
      | .error t => s.complaint t input
      | .ok e => partsOfOperands s e e.extent.leading a.operands input
  match leadingNumber? args with
  | some (.error c, _) => stray c
  | some (.ok (.error t), _) => s.complaint t input
  | some (.ok (.ok e), more) => go e more
  | none => go {} args

/-! ## the last part -/

/-- the options of the last part: those without a letter of their own have digits below the letters -/
def trailingLetters : Letters where
  plain := "fFqvz\x02\x05\x06"
  valued := "ncs\x03\x04"
  optional := "\x01"
  words := [("bytes", 'c'), ("follow", '\x01'), ("lines", 'n'), ("retry", '\x02'), ("pid", '\x03'),
    ("max-unchanged-stats", '\x04'), ("quiet", 'q'), ("silent", 'q'), ("sleep-interval", 's'),
    ("verbose", 'v'), ("zero-terminated", 'z'), ("-disable-inotify", '\x05'),
    ("-presume-input-pipe", '\x06')]

/-- what is asked of the last part by one more option, or what is wrong with it; help is named after some
faults -/
def EndErrand.withTrailing (e : EndErrand) (o : Char × Text) : Except (Text × Bool) EndErrand :=
  let isSpan (t : Text) : Bool := (Binary64.ofPlainText? t).any fun x => !x.isBelowZero && x != .notANumber
  let plainly {α : Type} (r : Except Text α) : Except (Text × Bool) α := r.mapError fun t => (t, false)
  match o.1 with
  | 'n' => plainly (e.measured '+' false o.2)
  | 'c' => plainly (e.measured '+' true o.2)
  | 'f' => .ok { e with follows := true, byName := false }
  | 'F' => .ok { e with follows := true, byName := true, retries := true }
  | '\x01' =>
    if o.2.isEmpty then .ok { e with follows := true, byName := false }
    else ((chosenWord "--follow" [["descriptor"], ["name"]] o.2).mapError fun t => (t, true)).map fun w =>
      { e with follows := true, byName := w == "name".toList }
  | '\x02' => .ok { e with retries := true }
  | '\x03' => (plainly (bounded "invalid PID" 0 2147483647 o.2)).map fun n => { e with owner := some n }
  | '\x04' => (plainly (bounded "invalid maximum number of unchanged stats between opens" 0 greatestSize o.2)).map
    fun _ => e
  | 's' => if isSpan o.2 then .ok e else .error ("invalid number of seconds: '" ++ o.2 ++ "'", false)
  | 'q' => .ok { e with named := some false }
  | 'v' => .ok { e with named := some true }
  | 'z' => .ok { e with extent := { e.extent with feed := 0 } }
  | _ => .ok e

/-- a number with a sign as the only argument before a file: after a plus it tells where the last part
begins -/
def trailingNumber? (args : List Text) : Option (Except Text EndErrand × List Text) :=
  let alone := match args with
    | [_] | [_, ['-', '-']] | [_, ['-', '-'], _] => true
    | [_, t] => t.head? != some '-' || t == ['-']
    | _ => false
  match args with
  | (sign :: t) :: more =>
    let digits := t.takeWhile Text.isDigit
    let rest := t.drop digits.length
    let unit := rest.head?.filter ("bcl".toList.contains ·)
    let after := if unit.isSome then rest.drop 1 else rest
    let follows := after.head? = some 'f'
    let isNumber := sign = '+' || (sign = '-' && !t.isEmpty && t != ['c'])
    if !alone || !isNumber || !(if follows then after.drop 1 else after).isEmpty then none
    else
      let factor := if unit = some 'b' then 512 else 1
      let bytes := unit.any (· != 'l')
      let n := if digits.isEmpty then 10 * factor else Decimal.digitsValue digits * factor
      let e : EndErrand := { follows, extent := { bytes, number := n, allBut := sign = '+' } }
      some (if greatestSize < n then .error ("invalid number: '" ++ (sign :: t)
        ++ "': Numerical result out of range") else .ok e, more)
  | _ => none

/-- the last part of files, after it is known what is asked for -/
def EndErrand.trailing (e : EndErrand) (s : Scene) (operands : List Text) (input : Bytes) : Outcome :=
  let warning (told : Bool) (t : Text) : Bytes := if told then remark s.called ("warning: " ++ t) else []
  let warnings := warning (e.retries && !e.follows) "--retry ignored; --retry is useful only when following"
    ++ warning (e.retries && e.follows && !e.byName) "--retry only effective for the initial open"
    ++ warning (e.owner.any (0 < ·) && !e.follows) "PID ignored; --pid=PID is useful only when following"
  let names := if operands.isEmpty then [['-']] else operands
  if e.follows && e.byName && names.contains ['-'] then
    { s.complaint "cannot follow '-' by name" input with
      errors := warnings ++ remark s.called "cannot follow '-' by name" }
  else if e.extent.number = 0 && !e.follows && !e.extent.allBut then { errors := warnings, left := input }
  else
    let o := partsOfOperands s e e.extent.trailing operands input
    let o := { o with errors := warnings ++ o.errors }
    let files := names.filter (· != ['-'])
    if !e.follows || files.isEmpty then o
    else if files.any s.isFile || e.retries then
      if e.owner.any (0 < ·) then o else { o with ending := .never }
    else { o with ending := .status 1, errors := o.errors ++ remark s.called "no files remaining" }

/-- write the last part of files -/
def trailing : Program := fun s args input =>
  let go (e : EndErrand) (args : List Text) : Outcome :=
    match Arguments.of trailingLetters args with
    | .error (.letter c) =>
      if Text.isDigit c then s.complaint ("option used in invalid context -- " ++ [c]) input
      else s.misuse (BadArgument.letter c).message input
    | .error bad => s.misuse bad.message input
    | .ok a => match a.options.foldlM EndErrand.withTrailing e with
      | .error (t, helps) => if helps then s.misuse t input else s.complaint t input
      | .ok e => e.trailing s a.operands input
  match trailingNumber? args with
  | some (.error t, _) => s.complaint t input
  | some (.ok e, more) => go e more
  | none => go {} args

end DatabaseTypes.Filter
