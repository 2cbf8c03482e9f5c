import DatabaseTypes.Filter.Lines
import DatabaseTypes.Filter.Pattern

/-!
# Looking for lines

* `Filter.Search`     what is looked for, and what is told about it
* `Filter.choosing`   the lines in which something is found, or the others
-/

namespace DatabaseTypes.Filter

/-- what is looked for, and the options about what is told: how many lines before and after a line that
is found are told too, and how many lines are looked for at most -/
structure Search where
  patterns : List Pattern
  arguments : Arguments
  before : Nat := 0
  after : Nat := 0
  most : Option Nat := none

namespace Search

/-! ## patterns -/

/-- a pattern as options ask for it: for whole lines or words, and for either case -/
def shaped (a : Arguments) (p : Pattern) : Pattern :=
  let p := if a.has 'i' || a.has 'y' then p.eitherCase else p
  if a.has 'x' then .sequence (.sequence .lineStart p) .lineEnd
  else if a.has 'w' then .sequence (.sequence (.word .clearBefore) p) (.word .clearBehind) else p

/-- the patterns of a text, one on each line -/
def patternsOf (a : Arguments) (t : Text) : Except Text (List Pattern) :=
  (Text.split '\n' (asText t.toBytes)).mapM fun line =>
    if a.has 'F' then .ok (shaped a (Pattern.ofPlainText line))
    else (Pattern.ofText (a.has 'E') line).map (shaped a) |>.mapError (PatternFault.message (a.has 'E'))

/-- is a line one that is looked for? -/
def wants (s : Search) (line : Text) : Bool :=
  s.patterns.any (·.occursIn line) != s.arguments.has 'v'

/-! ## lines -/

/-- a line with its number and its place in bytes, and whether it is found -/
structure Found where
  number : Nat
  place : Nat
  line : Text
  found : Bool

/-- the lines after some, and which of them are found; so many are looked for at most -/
def foundFrom (s : Search) (number place : Nat) (most : Option Nat) : List Text → List Found
  | [] => []
  | l :: ls =>
    let found := most != some 0 && s.wants l
    ⟨number, place, l, found⟩
      :: foundFrom s (number + 1) (place + l.length + 1) (if found then most.map (· - 1) else most) ls

/-- is a line told among others, by the numbers of the lines that are found? -/
def isNear (s : Search) (found : List Nat) (number : Nat) : Bool :=
  found.any fun n => number ≤ n + s.after && n ≤ number + s.before

/-- the parts of a line that are found, each with its place; each step uses up a character -/
def partsWithin (s : Search) : Nat → Pattern.Spot → List (Nat × Text)
  | 0, _ => []
  | fuel + 1, spot =>
    let ends := s.patterns.filterMap fun p => p.match? spot
    match ends.foldl (fun n e => max n (e.taken - spot.taken)) 0 with
    | 0 => if spot.rest.isEmpty then [] else partsWithin s fuel (spot.further 1)
    | n => (spot.taken, spot.rest.take n) :: partsWithin s fuel (spot.further n)

/-! ## what is told -/

/-- what is told about a line: its parts or all of it, behind its name and numbers -/
def told (s : Search) (front : Text) (f : Found) : List Text :=
  let a := s.arguments
  let mark := if f.found then ':' else '-'
  let named : Text := if front.isEmpty then [] else front ++ [mark]
  let numbered : Text := if a.has 'n' then Text.ofNat f.number ++ [mark] else []
  let placed (n : Nat) : Text := if a.has 'b' then Text.ofNat (f.place + n) ++ [mark] else []
  let parts : List (Nat × Text) :=
    if !a.has 'o' then [(0, f.line)]
    else if a.has 'v' || !f.found then []
    else s.partsWithin (f.line.length + 1) { rest := f.line }
  parts.map fun p => named ++ numbered ++ placed p.1 ++ p.2

/-- the letter of the option that nothing divides groups of lines -/
def undividedLetter : Char := '\x01'

/-- what is told about lines, with a mark between those that do not follow each other -/
def toldAll (s : Search) (front : Text) (last : Option Nat) : List Found → List Text
  | [] => []
  | f :: fs =>
    let divides := (0 < s.before || 0 < s.after) && last.any (· + 1 < f.number)
      && !s.arguments.has undividedLetter
    (if divides then [['-', '-']] else []) ++ s.told front f ++ toldAll s front (some f.number) fs

/-- what is told about a file -/
structure Report where
  lines : List Text := []
  remarks : List Text := []
  found : Bool := false

/-- what is told about a file; `named` tells whether the name stands in front -/
def report (s : Search) (named : Bool) (name : Text) (bytes : Bytes) : Report :=
  let a := s.arguments
  let shownName : Text :=
    if name = ['-'] then (a.value? '\x02').getD "(standard input)" else name
  let front : Text := if named then shownName else []
  let lines := s.foundFrom 1 0 s.most (bareLines bytes)
  let found := (lines.filter (·.found)).map (·.number)
  let isFound := !found.isEmpty
  let isBinary := bytes.contains 0 && !a.has 'a' && !("qlLc".toList.any a.has)
  let shown :=
    if a.has 'q' then []
    else if a.has 'l' then if found.isEmpty then [] else [shownName]
    else if a.has 'L' then if found.isEmpty then [shownName] else []
    else if a.has 'c' then
      [(if named then front ++ [':'] else []) ++ Text.ofNat found.length]
    else if isBinary then []
    else s.toldAll front none (lines.filter fun f => s.isNear found f.number)
  { lines := shown, found := isFound
    remarks := if isBinary && isFound then [shownName ++ ": binary file matches"] else [] }

end Search

/-! ## the filter -/

/-- an end with the use of the program -/
def searchMisuse (s : Scene) (front : Text) (input : Bytes) : Outcome :=
  let use : Text := "Usage: " ++ s.called ++ " [OPTION]... PATTERNS [FILE]...\nTry '" ++ s.called
    ++ " --help' for more information.\n"
  { ending := .status 2, errors := Text.toBytes (front ++ use), left := input }

/-- the options of looking for lines -/
def searchLetters : Letters where
  plain := "EFGivcnoqxwlLhHsyabUI" ++ [Search.undividedLetter]
  valued := "efmABC" ++ ['\x02']
  optional := ['\x03']
  words := [("extended-regexp", 'E'), ("fixed-strings", 'F'), ("basic-regexp", 'G'), ("regexp", 'e'),
    ("file", 'f'), ("ignore-case", 'i'), ("word-regexp", 'w'), ("line-regexp", 'x'), ("no-messages", 's'),
    ("invert-match", 'v'), ("max-count", 'm'), ("byte-offset", 'b'), ("line-number", 'n'),
    ("with-filename", 'H'), ("no-filename", 'h'), ("label", '\x02'), ("only-matching", 'o'),
    ("quiet", 'q'), ("silent", 'q'), ("text", 'a'), ("files-without-match", 'L'),
    ("files-with-matches", 'l'), ("count", 'c'), ("before-context", 'B'), ("after-context", 'A'),
    ("context", 'C'), ("no-group-separator", Search.undividedLetter), ("color", '\x03'),
    ("colour", '\x03'), ("binary", 'U')]

/-- a number of lines after a dash as an option in full -/
def contextNumber (args : List Text) : List Text :=
  args.flatMap fun t => match t with
    | '-' :: digits => if (count? digits).isSome then [['-', 'C'], digits] else [t]
    | t => [t]

/-- what arguments ask for and where it is looked for, or what is wrong with them -/
def Search.ofArguments (s : Scene) (a : Arguments) (input : Bytes) :
    Except (Option Text) (Search × List Text) := do
  let given := a.options.filter fun o => o.1 == 'e' || o.1 == 'f'
  let (given, operands) :=
    if given.isEmpty then ((a.operands.take 1).map fun t => ('e', t), a.operands.drop 1)
    else (given, a.operands)
  if given.isEmpty then throw none
  let number (c : Char) (fault : Text → Text) : Except (Option Text) (Option Nat) :=
    match a.value? c with
    | none => pure none
    | some t => match count? t with
      | some n => pure (some n)
      | none => throw (some (fault t))
  let context (t : Text) : Text := t ++ ": invalid context length argument"
  let before ← number 'B' context
  let after ← number 'A' context
  let around ← number 'C' context
  let most ← number 'm' fun _ => "invalid max count"
  let texts ← given.mapM fun o =>
    if o.1 = 'e' then pure [o.2]
    else match if o.2 = ['-'] then .ok input else s.read o.2 with
      | .ok bytes => pure ((bareLines bytes).map fun l => Text.ofBytesShowing (asBytes l))
      | .error cause => throw (some (Scene.plainly o.2 cause))
  let patterns ← (texts.flatten.mapM (patternsOf a)).mapError some
  pure ({
    patterns := patterns.flatten, arguments := a, most
    before := (before <|> around).getD 0, after := (after <|> around).getD 0 }, operands)

/-- choose the lines in which a pattern occurs, or the others -/
def choosing : Program := fun s args input =>
  match Arguments.of searchLetters (contextNumber args) with
  | .error bad => searchMisuse s (s.called ++ ": " ++ bad.message ++ ['\n']) input
  | .ok a => match Search.ofArguments s a input with
    | .error none => searchMisuse s [] input
    | .error (some t) => s.complaint t input 2
    | .ok (search, operands) =>
      let (os, left) := s.operands operands input
      let named := (1 < operands.length || a.has 'H') && !a.has 'h'
      let reports := os.filterMap fun o => o.2.toOption.map fun bytes => search.report named o.1 bytes
      let errors := os.flatMap fun o => match o.2 with
        | .ok _ => []
        | .error cause => if a.has 's' then [] else remark s.called (Scene.plainly o.1 cause)
      let failed := os.any fun o => o.2.toOption.isNone
      let found := reports.any (·.found)
      let remarks := (reports.flatMap (·.remarks)).flatMap (remark s.called)
      let status := if failed && !(a.has 'q' && found) then 2 else if found then 0 else 1
      { ending := .status status, output := withFeeds (reports.flatMap (·.lines)), errors := remarks ++ errors
        left }

/-- choose lines by patterns of one kind -/
def choosingLike (kind : Char) : Program := fun s args input =>
  choosing { s with called := "grep" } (['-', kind] :: args) input

end DatabaseTypes.Filter
