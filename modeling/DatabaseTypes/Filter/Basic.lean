import DatabaseTypes.Decimal.Arithmetic
import DatabaseTypes.Decimal.Reading
import DatabaseTypes.Files

/-!
# Filters

Programs that read text and write text, by name.  They can serve as formatters where no other program
can be started.  Their text is bytes, and each byte stands for the character of its number.

* `Filter.Scene`       what a filter finds: its name, variables, files, and where it works
* `Filter.Outcome`     how a filter ends
* `Filter.Program`     what a filter makes of its arguments and its input
* `Filter.Launcher`    how a filter starts others
* `Filter.piecesOf`, `Filter.byteLines`   pieces with their feeds, and lines with their line feeds
-/

namespace DatabaseTypes.Filter

/-! ## programs -/

/-- what a filter finds: the name it is called by, variables, files, and the directory it works in -/
structure Scene where
  called : Text := []
  environment : List (Text × Text) := []
  files : Files := {}
  here : Location := []

/-- how a program comes to its end, if it does -/
inductive Ending where
  | status (n : Nat)
  | signal (n : Nat)
  | never
  deriving DecidableEq

/-- how a filter ends: what it wrote, how many seconds it slept, what it left of its input, and the
files, if it changed any -/
structure Outcome where
  ending : Ending := .status 0
  output : Bytes := []
  errors : Bytes := []
  slept : Binary64 := .zero false
  left : Bytes := []
  files : Option Files := none

/-- two outcomes, one after the other -/
def Outcome.followed (first second : Outcome) : Outcome :=
  { second with
    output := first.output ++ second.output, errors := first.errors ++ second.errors
    slept := first.slept.plus second.slept, files := second.files <|> first.files }

/-- what a filter makes of its arguments and its input -/
abbrev Program := Scene → List Text → Bytes → Outcome

/-- how a program starts others: a command by its words, or a script for a shell -/
structure Launcher where
  command : Scene → List Text → Bytes → Outcome
  script : Scene → Text → Bytes → Outcome

/-- a line with the name of a program in front -/
def remark (name message : Text) : Bytes := (name ++ [':', ' '] ++ message ++ ['\n']).toBytes

/-- an end with a message; the input is left -/
def Scene.complaint (s : Scene) (message : Text) (input : Bytes := []) (status : Nat := 1) : Outcome :=
  { ending := .status status, errors := remark s.called message, left := input }

/-- an end with a message, and where help is to be had -/
def Scene.misuse (s : Scene) (message : Text) (input : Bytes := []) (status : Nat := 1) : Outcome :=
  s.complaint (message ++ "\nTry '" ++ s.called ++ " --help' for more information.") input status

/-! ## lines -/

/-- bytes as characters of the same numbers -/
def asText (bs : Bytes) : Text := bs.map fun b => Char.ofNat b.toNat

/-- characters as bytes of the same numbers -/
def asBytes (t : Text) : Bytes := t.map fun c => UInt8.ofNat c.toNat

/-- bytes up to each feed, each with its feed; the last may lack one -/
def piecesOf (feed : UInt8) (bs : Bytes) : List Bytes :=
  bs.foldr (fun b ls => if b = feed then [feed] :: ls else match ls with
    | l :: ls => (b :: l) :: ls
    | [] => [[b]]) []

/-- the pieces are the bytes -/
theorem piecesOf_flatten (feed : UInt8) (bs : Bytes) : (piecesOf feed bs).flatten = bs := by
  induction bs with
  | nil => rfl
  | cons b bs ih =>
    show (if b = feed then [feed] :: piecesOf feed bs else match piecesOf feed bs with
      | l :: ls => (b :: l) :: ls
      | [] => [[b]]).flatten = b :: bs
    by_cases h : b = feed
    · rw [if_pos h, List.flatten_cons, ih, h]; rfl
    · rw [if_neg h]
      cases hl : piecesOf feed bs with
      | nil => rw [hl] at ih; rw [← ih]; rfl
      | cons l ls =>
        rw [hl, List.flatten_cons] at ih
        show b :: (l ++ ls.flatten) = b :: bs
        rw [ih]

/-- the lines of bytes, each with its line feed; the last may lack one -/
def byteLines (bs : Bytes) : List Bytes := piecesOf 10 bs

/-- the lines are the bytes -/
theorem byteLines_flatten (bs : Bytes) : (byteLines bs).flatten = bs := piecesOf_flatten 10 bs

/-- the lines without their line feeds, as characters -/
def bareLines (bs : Bytes) : List Text := (byteLines bs).map fun l => asText (l.filter (· != 10))

/-- lines with line feeds -/
def withFeeds (ls : List Text) : Bytes := asBytes (ls.flatMap (· ++ ['\n']))

/-! ## numbers and bytes in words -/

/-- numbers added -/
def total (ns : List Nat) : Nat := ns.foldr (· + ·) 0

/-- a number of decimal digits -/
def count? (t : Text) : Option Nat :=
  if !t.isEmpty && t.all Text.isDigit then some (Decimal.digitsValue t) else none

/-- the value of an octal digit -/
def octal? (c : Char) : Option Nat := if '0' ≤ c ∧ c ≤ '7' then some (c.toNat - '0'.toNat) else none

/-- a byte of up to three octal digits, and what follows it -/
def octalByte (t : Text) : UInt8 × Text :=
  let digits := (t.take 3).takeWhile fun c => (octal? c).isSome
  (UInt8.ofNat (digits.foldl (fun n c => 8 * n + (octal? c).getD 0) 0), t.drop digits.length)

/-- the byte of an escape by one letter -/
def letterByte? (c : Char) : Option UInt8 :=
  let table : List (Char × UInt8) := [('n', 10), ('t', 9), ('r', 13), ('a', 7), ('b', 8), ('f', 12),
    ('v', 11), ('\\', 92), ('"', 34), ('e', 27)]
  table.lookup c

end DatabaseTypes.Filter
