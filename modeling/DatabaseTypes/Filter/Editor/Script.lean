import DatabaseTypes.Filter.Pattern

/-!
# Scripts of the line editor

A script is a list of instructions.  Each says what is done, and from which line to which; without
lines it is done everywhere.

* `Filter.LineMark`            the lines that an instruction is for
* `Filter.Deed`                what is done with a line
* `Filter.Instruction`         a deed and its lines
* `Filter.Script.ofPieces`     the script of the texts that it is given in
-/

namespace DatabaseTypes.Filter

/-- a line in a script: by its number, every so many lines, the last one, one in which a pattern
occurs, so many lines after the first one, or the next one whose number is a multiple.  A pattern that
is left out is the one that was looked for before. -/
inductive LineMark where
  | number (n : Nat)
  | every (first step : Nat)
  | last
  | holding (p : Option Pattern)
  | later (n : Nat)
  | multiple (n : Nat)
  deriving DecidableEq

/-- when a jump is made -/
inductive JumpCase where
  | always
  | replaced
  | notReplaced
  deriving DecidableEq

/-- what follows a replacement: the line is printed, carried out as a command, printed, and written to a
file -/
structure Sequel where
  printedFirst : Bool := false
  carriedOut : Bool := false
  printed : Bool := false
  file : Option Text := none

/-- what is done with a line -/
inductive Deed where
  | print
  | printFirst
  | delete
  | deleteFirst
  | quit (status : Nat) (silent : Bool)
  | replace (p : Option Pattern) (new : Text) (choice : Pattern.Choice) (sequel : Sequel)
  | exchange (old new : Text)
  | appendText (t : Text)
  | insertText (t : Text)
  | changeText (t : Text)
  | appendFile (file : Text)
  | appendLine (file : Text)
  | write (file : Text)
  | writeFirst (file : Text)
  | spell (width : Option Nat)
  | blank
  | name
  | number
  | next
  | join
  | keep
  | keepMore
  | fetch
  | fetchMore
  | swap
  | label (name : Text)
  /-- go on after a label, or at the end without a name -/
  | jump (case : JumpCase) (name : Text)
  /-- the next so many instructions are for the same lines -/
  | block (size : Nat)
  /-- what a command writes comes before the line -/
  | insertOutput (command : Text)
  /-- what the line as a command writes takes its place -/
  | carryOut
  | nothing

/-- what is done, and from which line to which; without lines it is done everywhere -/
structure Instruction where
  first : Option LineMark := none
  last : Option LineMark := none
  inverted : Bool := false
  deed : Deed

/-- why a text is no script -/
inductive ScriptFault where
  | unknown (c : Char)
  | noCommand
  | unfinishedReplacement
  | unfinishedExchange
  | unequalExchange
  | unknownFlag
  | repeatedFlag (flag : Text)
  | zeroFlag
  | unfinishedMark
  | extraCharacters
  | openBlock
  | closedBlock
  | markedBlockEnd
  | markedLabel
  | markedComment
  | noText
  | noFile
  | noLabelName
  | noSecondMark
  | badFirstMark
  | badZeroMark
  | oneMarkOnly
  | manyInversions
  | newerScript
  | changedEmptyPattern
  | badReference (n : Nat)
  | badPattern (f : PatternFault)
  deriving DecidableEq

/-- what is wrong, in words -/
def ScriptFault.message (extended : Bool) : ScriptFault → Text
  | .unknown c => "unknown command: \x60" ++ [c, '\'']
  | .noCommand => "missing command"
  | .unfinishedReplacement => "unterminated \x60s' command"
  | .unfinishedExchange => "unterminated \x60y' command"
  | .unequalExchange => "strings for \x60y' command are different lengths"
  | .unknownFlag => "unknown option to \x60s'"
  | .repeatedFlag flag => "multiple " ++ flag ++ " options to \x60s' command"
  | .zeroFlag => "number option to \x60s' command may not be zero"
  | .unfinishedMark => "unterminated address regex"
  | .extraCharacters => "extra characters after command"
  | .openBlock => "unmatched \x60\x7b'"
  | .closedBlock => "unexpected \x60\x7d'"
  | .markedBlockEnd => "\x60\x7d' doesn't want any addresses"
  | .markedLabel => ": doesn't want any addresses"
  | .markedComment => "comments don't accept any addresses"
  | .noText => "expected \\ after \x60a', \x60c' or \x60i'"
  | .noFile => "missing filename in r/R/w/W commands"
  | .noLabelName => "\":\" lacks a label"
  | .noSecondMark => "unexpected \x60,'"
  | .badFirstMark => "invalid usage of +N or ~N as first address"
  | .badZeroMark => "invalid usage of line address 0"
  | .oneMarkOnly => "command only uses one address"
  | .manyInversions => "multiple \x60!'s"
  | .newerScript => "expected newer version of sed"
  | .changedEmptyPattern => "cannot specify modifiers on empty regexp"
  | .badReference n => "invalid reference \\" ++ Text.ofNat n ++ " on \x60s' command's RHS"
  | .badPattern f => f.message extended

namespace Script

/-- a fault with what was left of the script then -/
abbrev FaultBefore := ScriptFault × Text

/-! ## marks and patterns -/

/-- the characters that letters after a backslash stand for -/
def letterChars : List (Char × Char) := [('n', '\n'), ('t', '\t'), ('f', '\x0c'), ('v', '\x0b'), ('a', '\x07'),
  ('r', '\r')]

/-- the character of up to so many digits in a base, and what follows them -/
def numberedChar? (digit? : Char → Option Nat) (base count : Nat) (t : Text) : Option (Char × Text) :=
  match (t.take count).takeWhile fun c => (digit? c).isSome with
  | [] => none
  | ds =>
    let n := ds.foldl (fun n c => base * n + (digit? c).getD 0) 0
    some (Char.ofNat (n % 256), t.drop ds.length)

/-- the character that an escape stands for, after its backslash, and what follows it -/
def escapedChar? : Text → Option (Char × Text)
  | [] => none
  | c :: t =>
    let decimal (c : Char) : Option Nat := if Text.isDigit c then some (c.toNat - '0'.toNat) else none
    match letterChars.lookup c with
    | some d => some (d, t)
    | none =>
      if c = 'x' then numberedChar? Text.hexDigit? 16 2 t
      else if c = 'o' then numberedChar? octal? 8 3 t
      else if c = 'd' then numberedChar? decimal 10 3 t
      else none

/-- a replacement up to a mark that no backslash is in front of, and what follows the mark; each step
uses up a character -/
def upTo? (mark : Char) : Nat → Text → Option (Text × Text)
  | 0, _ => none
  | _ + 1, [] => none
  | fuel + 1, '\\' :: c :: t =>
    if c = mark then
      (upTo? mark fuel t).map fun (u, rest) => (if c = '&' then '\\' :: c :: u else c :: u, rest)
    else match escapedChar? (c :: t) with
      | some (d, t) => (upTo? mark fuel t).map fun (u, rest) =>
        (if d = '&' ∨ d = '\\' then '\\' :: d :: u else d :: u, rest)
      | none => (upTo? mark fuel t).map fun (u, rest) => ('\\' :: c :: u, rest)
  | fuel + 1, c :: t =>
    if c = mark then some ([], t)
    else if c = '\n' then none
    else (upTo? mark fuel t).map fun (u, rest) => (c :: u, rest)

/-- what is left of a text that lacks a mark: from the first line feed on that no backslash is in front
of -/
def atFeed : Text → Text
  | [] => []
  | '\\' :: _ :: t => atFeed t
  | c :: t => if c = '\n' then c :: t else atFeed t

/-- how many characters a set takes after its opening bracket, if it is closed -/
def setLength? (t : Text) : Option Nat :=
  let inverted := t.head? == some '^'
  let u := if inverted then t.drop 1 else t
  let front := (if inverted then 1 else 0) + (if u.head? == some ']' then 1 else 0)
  (closing (t.length + 1) (t.drop front)).map (front + ·)
where
  /-- the characters up to a closing bracket; each step uses up a character -/
  closing : Nat → Text → Option Nat
    | 0, _ => none
    | _ + 1, [] => none
    | _ + 1, ']' :: _ => some 1
    | fuel + 1, '[' :: ':' :: t =>
      let name := t.takeWhile (· != ':')
      if Text.startsWith [':', ']'] (t.drop name.length) then
        (closing fuel (t.drop (name.length + 2))).map (name.length + 4 + ·)
      else (closing fuel (':' :: t)).map (1 + ·)
    | fuel + 1, _ :: t => (closing fuel t).map (1 + ·)

/-- a set with its escapes as characters; each step uses up a character -/
def setChars : Nat → Text → Text
  | 0, t => t
  | _ + 1, [] => []
  | fuel + 1, '\\' :: c :: t => match escapedChar? (c :: t) with
    | some (d, t) => d :: setChars fuel t
    | none => '\\' :: c :: setChars fuel t
  | fuel + 1, c :: t => c :: setChars fuel t

/-- a pattern up to a mark that is neither after a backslash nor in a set, and what follows the mark;
each step uses up a character -/
def patternUpTo? (mark : Char) : Nat → Text → Option (Text × Text)
  | 0, _ => none
  | _ + 1, [] => none
  | fuel + 1, '\\' :: c :: t =>
    if c = mark then (patternUpTo? mark fuel t).map fun (u, rest) => (c :: u, rest)
    else match escapedChar? (c :: t) with
      | some (d, t) => (patternUpTo? mark fuel t).map fun (u, rest) => (d :: u, rest)
      | none => (patternUpTo? mark fuel t).map fun (u, rest) => ('\\' :: c :: u, rest)
  | fuel + 1, '[' :: t =>
    if mark = '[' then some ([], t)
    else match setLength? t with
      | none => none
      | some n =>
        if (t.take n).contains '\n' then none
        else (patternUpTo? mark fuel (t.drop n)).map fun (u, rest) =>
          ('[' :: setChars n (t.take n) ++ u, rest)
  | fuel + 1, c :: t =>
    if c = mark then some ([], t)
    else if c = '\n' then none
    else (patternUpTo? mark fuel t).map fun (u, rest) => (c :: u, rest)

/-- the pattern of a text, none if it is empty; `folded` and `multiple` tell whether it is for either
case and for each line, and what is left is told if it is no pattern -/
def patternOf (extended folded multiple : Bool) (t left : Text) : Except FaultBefore (Option Pattern) :=
  if t.isEmpty then
    if folded || multiple then .error (.changedEmptyPattern, left) else .ok none
  else match Pattern.strictOfText extended t with
    | .error f => .error (.badPattern f, left)
    | .ok p =>
      let p := if folded then p.eitherCase else p
      .ok (some (if multiple then p.forEachLine else p))

/-- a number at the front of a text, and what follows it -/
def numberAt (t : Text) : Nat × Text :=
  ((count? (t.takeWhile Text.isDigit)).getD 0, t.dropWhile Text.isDigit)

/-- without blanks at the front -/
def unblanked (t : Text) : Text := t.dropWhile fun c => c == ' ' || c == '\t'

/-- the letters after the pattern of a mark, and what follows them; each step uses up a character -/
def markFlags (folded multiple : Bool) : Nat → Text → Bool × Bool × Text
  | 0, t => (folded, multiple, t)
  | fuel + 1, t => match unblanked t with
    | 'I' :: rest => markFlags true multiple fuel rest
    | 'M' :: rest => markFlags folded true fuel rest
    | rest => (folded, multiple, rest)

/-- a line mark by a pattern up to a sign, and what follows it -/
def patternMark (extended : Bool) (sign : Char) (t : Text) :
    Except FaultBefore (Option LineMark × Text) :=
  match patternUpTo? sign (t.length + 1) t with
  | none => .error (.unfinishedMark, atFeed t)
  | some (u, rest) => do
    let (folded, multiple, rest) := markFlags false false (rest.length + 1) rest
    let p ← patternOf extended folded multiple u rest
    pure (some (.holding p), rest)

/-- a line mark at the front of a text, if there is one, and what follows it -/
def lineMark (extended : Bool) : Text → Except FaultBefore (Option LineMark × Text)
  | '$' :: t => .ok (some .last, t)
  | '/' :: t => patternMark extended '/' t
  | '\\' :: sign :: t => patternMark extended sign t
  | '+' :: t => match numberAt (unblanked t) with
    | (n, rest) => .ok (some (.later n), rest)
  | '~' :: t => match numberAt (unblanked t) with
    | (n, rest) => .ok (some (.multiple n), rest)
  | c :: t =>
    if Text.isDigit c then
      let (n, rest) := numberAt (c :: t)
      match unblanked rest with
      | '~' :: rest =>
        let (step, rest) := numberAt (unblanked rest)
        .ok (some (if step = 0 then .number n else .every n step), rest)
      | rest => .ok (some (.number n), rest)
    else .ok (none, c :: t)
  | [] => .ok (none, [])

/-! ## replacements -/

/-- the flags of a replacement: the choice of matches, what follows, whether case counts and whether each
line counts for itself, and whether the choice begins with a number -/
structure Flags where
  choice : Pattern.Choice := {}
  sequel : Sequel := {}
  folded : Bool := false
  multiple : Bool := false
  counted : Bool := false

/-- the name of a file up to the end of its line, and what follows it -/
def fileName (t : Text) : Except FaultBefore (Text × Text) :=
  let name := (unblanked t).takeWhile (· != '\n')
  if name.isEmpty then .error (.noFile, unblanked t)
  else .ok (name, ((unblanked t).drop name.length).drop 1)

/-- the flags of a replacement at the front of a text after others, and what follows them; each step
uses up a character -/
def flagsFrom : Nat → Flags → Text → Except FaultBefore (Flags × Text)
  | 0, f, t => .ok (f, t)
  | _ + 1, f, [] => .ok (f, [])
  | fuel + 1, f, c :: t =>
    if c = 'g' then
      if f.choice.all then .error (.repeatedFlag "\x60g'", t)
      else flagsFrom fuel { f with choice.all := true } t
    else if c = 'p' then
      if f.sequel.printed || f.sequel.printedFirst then .error (.repeatedFlag "\x60p'", t)
      else if f.sequel.carriedOut then flagsFrom fuel { f with sequel.printed := true } t
      else flagsFrom fuel { f with sequel.printedFirst := true } t
    else if c = 'e' then flagsFrom fuel { f with sequel.carriedOut := true } t
    else if c = 'i' ∨ c = 'I' then flagsFrom fuel { f with folded := true } t
    else if c = 'm' ∨ c = 'M' then flagsFrom fuel { f with multiple := true } t
    else if c = 'w' then (fileName t).map fun (name, rest) => ({ f with sequel.file := some name }, rest)
    else if Text.isDigit c then
      let (n, rest) := numberAt (c :: t)
      if f.counted then .error (.repeatedFlag "number", t)
      else if n = 0 then .error (.zeroFlag, t)
      else flagsFrom fuel { f with choice.first := n, counted := true } rest
    else if c = ' ' ∨ c = '\t' then flagsFrom fuel f t
    else if c = ';' ∨ c = '\n' then .ok (f, t)
    else if c = '\x7d' ∨ c = '#' then .ok (f, c :: t)
    else .error (.unknownFlag, t)

/-- the greatest number of a group that a replacement asks for -/
def greatestReference : Text → Nat
  | '\\' :: c :: t => max (if Text.isDigit c then c.toNat - '0'.toNat else 0) (greatestReference t)
  | _ :: t => greatestReference t
  | [] => 0

/-- a replacement after its letter, and what follows it -/
def replacement (extended : Bool) : Text → Except FaultBefore (Deed × Text)
  | [] => .error (.unfinishedReplacement, [])
  | mark :: t => match patternUpTo? mark (t.length + 1) t with
    | none => .error (.unfinishedReplacement, atFeed t)
    | some (old, t) => match upTo? mark (t.length + 1) t with
      | none => .error (.unfinishedReplacement, atFeed t)
      | some (new, t) => do
        let (f, rest) ← flagsFrom (t.length + 1) {} t
        let p ← patternOf extended f.folded f.multiple old rest
        let n := greatestReference new
        if p.any fun p => p.groupCount < n then throw (.badReference n, rest)
        pure (.replace p new f.choice f.sequel, rest)

/-- a text up to a mark that no backslash is in front of, and what follows the mark -/
def plainUpTo? (mark : Char) : Text → Option (Text × Text)
  | [] => none
  | '\\' :: c :: t => (plainUpTo? mark t).map fun (u, rest) =>
    (if c = mark then c :: u else '\\' :: c :: u, rest)
  | c :: t =>
    if c = mark then some ([], t)
    else if c = '\n' then none
    else (plainUpTo? mark t).map fun (u, rest) => (c :: u, rest)

/-- characters that are exchanged, with their escapes -/
def exchanged : Text → Text
  | '\\' :: c :: t => (if c = 'n' then '\n' else if c = 't' then '\t' else c) :: exchanged t
  | c :: t => c :: exchanged t
  | [] => []

/-- an exchange after its letter, and what follows it -/
def exchange : Text → Except FaultBefore (Deed × Text)
  | [] => .error (.unfinishedExchange, [])
  | mark :: t => match plainUpTo? mark t with
    | none => .error (.unfinishedExchange, atFeed t)
    | some (old, t) => match plainUpTo? mark t with
      | none => .error (.unfinishedExchange, atFeed t)
      | some (new, rest) =>
        if (exchanged old).length = (exchanged new).length then
          .ok (.exchange (exchanged old) (exchanged new), rest)
        else .error (.unequalExchange, rest)

/-! ## deeds -/

/-- a text to the end of its line, with its line feed; a backslash takes the next character as it
is -/
def textLine : Text → Text × Text
  | [] => (['\n'], [])
  | '\\' :: c :: t =>
    let (u, rest) := textLine t
    (c :: u, rest)
  | c :: t =>
    if c = '\n' then (['\n'], t)
    else
      let (u, rest) := textLine t
      (c :: u, rest)

/-- a text after the letter that adds it, on the same line or on the next one; a backslash alone adds
nothing -/
def addedText (make : Text → Deed) (t : Text) : Except FaultBefore (Deed × Text) :=
  match unblanked t with
  | ['\\'] => .ok (make [], [])
  | '\\' :: '\n' :: t =>
    let (u, rest) := textLine t
    .ok (make u, rest)
  | '\\' :: t =>
    let (u, rest) := textLine t
    .ok (make u, rest)
  | [] => .error (.noText, [])
  | t =>
    let (u, rest) := textLine t
    .ok (make u, rest)

/-- what may stand between two instructions -/
def isBetween (c : Char) : Bool := [';', '\n', ' ', '\t'].contains c

/-- the name of a label at the front of a text, and what follows it -/
def labelAt (ends : Char → Bool) (t : Text) : Text × Text :=
  let name := (unblanked t).takeWhile fun c => !isBetween c && !ends c
  (name, (unblanked t).drop name.length)

/-- the letters of instructions without more to them -/
def plainDeeds : List (Char × Deed) := [
  ('p', .print), ('P', .printFirst), ('d', .delete), ('D', .deleteFirst), ('=', .number),
  ('n', .next), ('N', .join), ('h', .keep), ('H', .keepMore), ('g', .fetch), ('G', .fetchMore),
  ('x', .swap), ('z', .blank), ('F', .name), ('\x7b', .block 0)]

/-- the letters of instructions with the name of a file -/
def fileDeeds : List (Char × (Text → Deed)) := [
  ('r', .appendFile), ('R', .appendLine), ('w', .write), ('W', .writeFirst)]

/-- the letters of jumps -/
def jumpDeeds : List (Char × JumpCase) := [('b', .always), ('t', .replaced), ('T', .notReplaced)]

/-- is the version in a text later than 4.9? -/
def isLaterVersion (t : Text) : Bool :=
  let (major, rest) := numberAt t
  let (minor, rest) := numberAt (rest.drop 1)
  4 < major || (major == 4 && (9 < minor || (minor == 9 && 0 < (numberAt (rest.drop 1)).1)))

/-- a deed at the front of a text, and what follows it; `marks` tells how many line marks it has -/
def deedAt (extended : Bool) (marks : Nat) : Text → Except FaultBefore (Deed × Text)
  | [] => .error (.noCommand, [])
  | 's' :: t => replacement extended t
  | 'y' :: t => exchange t
  | 'a' :: t => addedText .appendText t
  | 'i' :: t => addedText .insertText t
  | 'c' :: t => addedText .changeText t
  | ':' :: t =>
    let (name, rest) := labelAt (fun _ => false) t
    if 0 < marks then .error (.markedLabel, t)
    else if name.isEmpty then .error (.noLabelName, rest)
    else .ok (.label name, rest)
  | 'v' :: t =>
    let (version, rest) := labelAt (fun _ => false) t
    if isLaterVersion version then .error (.newerScript, rest) else .ok (.nothing, rest)
  | 'e' :: t => match unblanked t with
    | [] => .ok (.carryOut, [])
    | '\n' :: rest => .ok (.carryOut, rest)
    | _ => addedText .insertOutput t
  | 'l' :: t =>
    let digits := (unblanked t).takeWhile Text.isDigit
    .ok (.spell (count? digits), (unblanked t).drop digits.length)
  | c :: t =>
    if c = 'q' ∨ c = 'Q' then
      let (n, rest) := numberAt (unblanked t)
      if marks = 2 then .error (.oneMarkOnly, t) else .ok (.quit n (c == 'Q'), rest)
    else match plainDeeds.lookup c, fileDeeds.lookup c, jumpDeeds.lookup c with
      | some d, _, _ => .ok (d, t)
      | _, some make, _ => (fileName t).map fun (name, rest) => (make name, rest)
      | _, _, some case =>
        let (name, rest) := labelAt (· == '\x7d') t
        .ok (.jump case name, rest)
      | _, _, _ => .error (.unknown c, t)

/-! ## instructions -/

/-- the line marks at the front of a text, and what follows them -/
def marksAt (extended : Bool) (t : Text) :
    Except FaultBefore (Option LineMark × Option LineMark × Text) := do
  let (first, t) ← lineMark extended t
  match first with
  | some (.later _) | some (.multiple _) => throw (.badFirstMark, t)
  | _ => pure ()
  let (last, t) ← match first, unblanked t with
    | some _, ',' :: t => do
      let (m, rest) ← lineMark extended (unblanked t)
      if m.isNone then throw (.noSecondMark, (unblanked t).drop 1) else pure (m, rest)
    | _, _ => pure (none, t)
  match first, last with
  | some (.number 0), some (.holding _) => pure ()
  | some (.number 0), _ => throw (.badZeroMark, (unblanked t).drop 1)
  | _, _ => pure ()
  pure (first, last, unblanked t)

/-- is what follows a deed, on its line, part of it? -/
def endsLine : Deed → Bool
  | .appendText _ | .insertText _ | .changeText _ | .block _ | .appendFile _ | .appendLine _ | .write _
    | .writeFirst _ | .replace _ _ _ _ | .insertOutput _ | .carryOut => true
  | _ => false

/-- instructions with a block that ends here: `before` is reversed, and `start` tells how many
instructions were read before the block -/
def closeBlock (before : List Instruction) (start : Nat) : List Instruction :=
  let size := before.length - start - 1
  before.mapIdx fun i x => if i = size then { x with deed := .block size } else x

/-- a script that is being read: the instructions, reversed, and how many of them stood before each
open block -/
structure Begun where
  before : List Instruction := []
  blocks : List Nat := []

/-- what is read after a piece of a script; each step uses up a character -/
def readFrom (extended : Bool) : Nat → Begun → Text → Except FaultBefore Begun
  | 0, b, _ => .ok b
  | fuel + 1, b, t =>
    match t.dropWhile isBetween with
    | [] => .ok b
    | t => do
      let (first, last, t) ← marksAt extended t
      let marks := first.toList.length + last.toList.length
      let inverted := t.head? == some '!'
      let t := if inverted then unblanked (t.drop 1) else t
      if inverted && t.head? == some '!' then throw (.manyInversions, t.drop 1)
      match t with
      | '#' :: t =>
        if 0 < marks then throw (.markedComment, t)
        else readFrom extended fuel b (t.dropWhile (· != '\n'))
      | '\x7d' :: t => match b.blocks with
        | [] => throw (.closedBlock, t)
        | start :: blocks =>
          if 0 < marks then throw (.markedBlockEnd, t)
          else
            let next := unblanked t
            if next.head?.all fun c => [';', '\n', '\x7d', '#'].contains c then
              readFrom extended fuel { before := closeBlock b.before start, blocks } t
            else throw (.extraCharacters, next.drop 1)
      | t => do
        let (deed, rest) ← deedAt extended marks t
        let blocks := match deed with
          | .block _ => b.before.length :: b.blocks
          | _ => b.blocks
        let i : Instruction := { first, last, inverted, deed }
        let next := unblanked rest
        if endsLine deed || next.head?.all fun c => [';', '\n', '\x7d', '#'].contains c then
          readFrom extended fuel { before := i :: b.before, blocks } rest
        else throw (.extraCharacters, next.drop 1)

/-! ## scripts -/

/-- a text that holds a part of a script, and the file it comes from, if it comes from one -/
structure Piece where
  text : Text
  file : Option Text := none

/-- does a text end with a backslash that takes the next character? -/
def goesOn (t : Text) : Bool := (t.reverse.takeWhile (· == '\\')).length % 2 == 1

/-- pieces of which none goes on in the next one, with their numbers among those from arguments; the
count is that of the pieces before -/
def joined : Nat → List Piece → List (Nat × Piece)
  | _, [] => []
  | n, p :: ps =>
    let n := if p.file.isNone then n + 1 else n
    match joined n ps with
    | (m, q) :: more =>
      if goesOn p.text && p.file.isNone then (m, { q with text := p.text ++ '\n' :: q.text }) :: more
      else (n, p) :: (m, q) :: more
    | [] => [(n, p)]

/-- where a fault is, in words -/
def placeOf (n : Nat) (p : Piece) (left : Text) : Text :=
  let done := p.text.take (p.text.length - left.length)
  match p.file with
  | some file => "file " ++ file ++ " line " ++ Text.ofNat (done.count '\n' + 1)
  | none => "-e expression #" ++ Text.ofNat n ++ ", char " ++ Text.ofNat done.length

/-- the place of a label -/
def labelPlace? (is : List Instruction) (name : Text) : Option Nat :=
  is.findIdx? fun i => match i.deed with
    | .label n => n == name
    | _ => false

/-- a jump to a label that there is not -/
def lostJump? (is : List Instruction) : Option Text :=
  is.findSome? fun i => match i.deed with
    | .jump _ name => if name.isEmpty || (labelPlace? is name).isSome then none else some name
    | _ => none

/-- what is read after numbered pieces -/
def readPieces (extended : Bool) : Begun → List (Nat × Piece) → Except Text Begun
  | b, [] => .ok b
  | b, (n, p) :: ps => match readFrom extended (p.text.length + 1) b p.text with
    | .error (f, left) => .error (placeOf n p left ++ ": " ++ f.message extended)
    | .ok b => readPieces extended b ps

/-- the instructions of the pieces of a script, or what is wrong with them in words -/
def ofPieces (extended : Bool) (ps : List Piece) : Except Text (List Instruction) := do
  let numbered := joined 0 ps
  let b ← readPieces extended {} numbered
  if !b.blocks.isEmpty then
    let (n, p) := numbered.getLast?.getD (0, { text := [] })
    throw (placeOf n p p.text ++ ": " ++ ScriptFault.openBlock.message extended)
  let is := b.before.reverse
  match lostJump? is with
  | some name => throw ("can't find label for jump to \x60" ++ name ++ ['\''])
  | none => pure is

/-- does a script ask for quiet in its first line? -/
def asksForQuiet (t : Text) : Bool :=
  Text.startsWith ['#', 'n'] t && (t.drop 2).head?.all (· == '\n')

end Script
end DatabaseTypes.Filter
