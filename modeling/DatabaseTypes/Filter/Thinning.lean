import DatabaseTypes.Filter.Arguments
import DatabaseTypes.Filter.Sorting

/-!
# Lines that repeat

Lines one after the other that are alike in some part of them are a run.

* `Filter.runsOf`      the runs of lines
* `Filter.Thinning`    what is written of runs
* `Filter.thinning`    the filter
-/

namespace DatabaseTypes.Filter

/-! ## runs -/

/-- runs of lines that are like the line before them -/
def runsOf (like : Text → Text → Bool) : List Text → List (List Text)
  | [] => []
  | l :: ls => match runsOf like ls with
    | (m :: ms) :: runs => if like l m then (l :: m :: ms) :: runs else [l] :: (m :: ms) :: runs
    | _ => [[l]]

/-- where runs are divided: not at all, before each, after each, between two, or on all sides -/
inductive Division where
  | none
  | before
  | after
  | between
  | around
  deriving DecidableEq

/-- runs with dividers between them -/
def Division.joined (d : Division) (divider : Text) (runs : List (List Text)) : List Text :=
  match d with
  | .none => runs.flatten
  | .before => runs.flatMap (divider :: ·)
  | .after => runs.flatMap (· ++ [divider])
  | .between => (runs.intersperse [divider]).flatten
  | .around => if runs.isEmpty then [] else divider :: runs.flatMap (· ++ [divider])

/-- nothing divides no runs -/
theorem Division.joined_nil (d : Division) (divider : Text) : d.joined divider [] = [] := by
  cases d <;> rfl

/-- what is written of runs: the line of a run of one, the first line of others, the lines between; by
which part lines are alike, where `digitsWereFields` and `charactersSet` tell how the part was given; whether
lines are counted; and how runs are divided -/
structure Thinning where
  single : Bool := true
  first : Bool := true
  later : Bool := false
  counts : Bool := false
  fields : Nat := 0
  digitsWereFields : Bool := false
  characters : Nat := 0
  charactersSet : Bool := false
  width : Option Nat := none
  anyCase : Bool := false
  feed : Char := '\n'
  division : Division := .none
  whole : Option Division := none
  chosen : Bool := false
  files : List Text := []

namespace Thinning

/-- the part of a line by which it is like another -/
def part (h : Thinning) (l : Text) : Text :=
  let t := (afterFields none h.fields l).drop h.characters
  let t := (h.width.map t.take).getD t
  if h.anyCase then t.map Char.toLower else t

/-- are lines alike? -/
def like (h : Thinning) (l m : Text) : Bool := h.part l == h.part m

/-- a line is like itself -/
theorem like_self (h : Thinning) (l : Text) : h.like l l = true := by simp [like]

/-- what is written of a run -/
def written (h : Thinning) (run : List Text) : List Text :=
  let counted (l : Text) : Text := if h.counts then column 7 run.length ++ [' '] ++ l else l
  if run.length ≤ 1 then if h.single then run.map counted else []
  else if h.later then run.dropLast ++ (if h.first then run.getLast?.toList else [])
  else if h.first then (run.take 1).map counted else []

/-- lines as they are written: all of them, divided, or what is chosen of each run -/
def lines (h : Thinning) (ls : List Text) : List Text :=
  let runs := runsOf h.like ls
  match h.whole with
  | some d => d.joined [] runs
  | none => h.division.joined [] ((runs.map h.written).filter (!·.isEmpty))

/-! ## what is asked for -/

/-- the letters of the options that have none of their own -/
def groupLetter : Char := '\x01'
def allLetter : Char := '\x02'

/-- a number of parts that are left out; what is too large is the greatest -/
def countOf (what t : Text) : Except (Text × Bool) Nat :=
  match amountOf false [] t with
  | .ok n => .ok n
  | .error .tooLarge => .ok greatestSize
  | .error _ => .error (t ++ ": invalid number of " ++ what, false)

/-- the division that a word asks for -/
def divisionOf (option : Text) (words : List (Text × Division)) (t : Text) : Except (Text × Bool) Division :=
  ((chosenWord option (words.map fun w => [w.1]) t).mapError fun t => (t, true)).map fun w =>
    (words.lookup w).getD .none

/-- what is asked for with one more option, or what is wrong with it; help is named after some faults -/
def withOption (h : Thinning) (o : Char × Text) : Except (Text × Bool) Thinning :=
  if Text.isDigit o.1 then
    let before := if h.digitsWereFields then h.fields else 0
    .ok { h with fields := 10 * before + Decimal.digitsValue [o.1], digitsWereFields := true }
  else if o.1 = allLetter then do
    let division ← if o.2.isEmpty then pure Division.none else
      divisionOf "--all-repeated" [("none", .none), ("prepend", .before), ("separate", .between)] o.2
    pure { h with single := false, later := true, division, chosen := true }
  else if o.1 = groupLetter then do
    let d ← if o.2.isEmpty then pure Division.between else divisionOf "--group" [("prepend", .before),
      ("append", .after), ("separate", .between), ("both", .around)] o.2
    pure { h with whole := some d }
  else match o.1 with
    | 'c' => .ok { h with counts := true, chosen := true }
    | 'd' => .ok { h with single := false, chosen := true }
    | 'D' => .ok { h with single := false, later := true, division := .none, chosen := true }
    | 'u' => .ok { h with first := false, chosen := true }
    | 'i' => .ok { h with anyCase := true }
    | 'z' => .ok { h with feed := '\x00' }
    | 'f' => (countOf "fields to skip" o.2).map fun n => { h with fields := n, digitsWereFields := false }
    | 's' => (countOf "bytes to skip" o.2).map fun n =>
      { h with characters := n, charactersSet := true }
    | 'w' => (countOf "bytes to compare" o.2).map fun n => { h with width := some n }
    | _ => .ok h

/-- what is asked for with one more operand: a number after a plus is one of characters -/
def withOperand (h : Thinning) (t : Text) : Except (Text × Bool) Thinning :=
  let own : Option Nat := match t with
    | '+' :: digits => (amountOf false [] digits).toOption
    | _ => none
  match own with
  | some n => .ok { h with characters := if h.charactersSet then h.characters else n }
  | none =>
    if h.files.length < 2 then .ok { h with files := h.files ++ [t] }
    else .error ("extra operand '" ++ t ++ "'", true)

/-- what arguments ask for, or what is wrong with them -/
def ofArguments (a : Arguments) : Except (Text × Bool) Thinning := do
  let h ← a.options.foldlM withOption {}
  let h ← a.operands.foldlM withOperand h
  if h.whole.isSome && h.chosen then
    throw ("--group is mutually exclusive with -c/-d/-D/-u".toList, true)
  if h.counts && h.later then
    throw ("printing all duplicated lines and repeat counts is meaningless".toList, true)
  pure h

end Thinning

/-! ## the filter -/

/-- the options of thinning -/
def thinLetters : Letters where
  plain := "cdDiuz0123456789"
  valued := "fsw"
  optional := [Thinning.groupLetter, Thinning.allLetter]
  words := [("count", 'c'), ("repeated", 'd'), ("all-repeated", Thinning.allLetter),
    ("group", Thinning.groupLetter), ("ignore-case", 'i'), ("unique", 'u'), ("skip-fields", 'f'),
    ("skip-chars", 's'), ("check-chars", 'w'), ("zero-terminated", 'z')]

/-- write lines that repeat once, or as options ask for it -/
def thinning : Program := withArguments thinLetters fun s a input =>
  match Thinning.ofArguments a with
  | .error (t, helps) => if helps then s.misuse t input else s.complaint t input
  | .ok h =>
    let failure (operand : Text) (cause : SystemCause) : Text :=
      if cause = .isDirectory then "error reading '" ++ operand ++ "': " ++ cause.message
      else Scene.plainly operand cause
    let o := s.across failure 1 (h.files.take 1) input fun os =>
      withFeedsOf h.feed (h.lines (bareLinesBy h.feed (joinedBytes os)))
    match h.files[1]? with
    | none | some ['-'] => o
    | some t =>
      if o.ending != .status 0 then o
      else match s.written t fun _ => o.output with
        | .ok files => { o with output := [], files := some files }
        | .error cause => s.complaint (Scene.plainly t cause) input

end DatabaseTypes.Filter
