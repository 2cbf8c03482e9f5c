import DatabaseTypes.Yaml.Cursor

/-!
# Texts in a settings file

A text stands plainly, in quotes of either sort, or in a block of lines below its head.

* `Yaml.folded`          what an end of a line and the empty lines after it become
* `Yaml.Scan.plain`      a text without quotes
* `Yaml.Scan.quoted`     a text in quotes
* `Yaml.Scan.block`      a text in a block of lines
-/

namespace DatabaseTypes.Yaml

/-- what an end of a line and the ends of empty lines after it become inside a text: a lone line
feed becomes a space, and a line feed before empty lines vanishes -/
def folded (lineBreak : Char) (others : Text) : Text :=
  if lineBreak ≠ '\n' then lineBreak :: others
  else if others.isEmpty then [' ']
  else others

/-! ## plain texts -/

/-- the marks that a plain text inside brackets cannot hold -/
def isBracketMark (c : Char) : Bool := [',', '?', '[', ']', '\x7b', '\x7d'].contains c

/-- the marks before which a colon ends a plain text inside brackets -/
def endsAfterColon (c : Char) : Bool := [',', '[', ']', '\x7b', '\x7d'].contains c

/-- the characters of a plain text up to a gap, a colon before a gap and, inside brackets, a mark -/
def plainRun (inBrackets : Bool) : Text → Text
  | [] => []
  | c :: t =>
    let colon := c == ':' && (isGapOrEnd t.head? || (inBrackets && t.head?.any endsAfterColon))
    if isGap c || colon || (inBrackets && isBracketMark c) then []
    else c :: plainRun inBrackets t

namespace Scan

/-- the ends of lines after the first one, with the spaces before them; nothing if a line separates
documents -/
def plainBreaks : Nat → Text → Scan (Option Text)
  | 0, breaks => pure (some breaks)
  | fuel + 1, breaks => do
    let _ ← run (· == ' ')
    match ← lineBreak? with
    | none => pure (some breaks)
    | some b => if ← atSeparator then pure none else plainBreaks fuel (breaks ++ [b])

/-- the gap after a part of a plain text, and whether a line ended in it -/
def plainGap : Scan (Text × Bool) := do
  let spaces ← run (· == ' ')
  match ← lineBreak? with
  | none => pure (spaces, false)
  | some b =>
    if ← atSeparator then pure ([], true)
    else match ← plainBreaks (← bound) [] with
      | none => pure ([], true)
      | some breaks => pure (folded b breaks, true)

/-- the parts of a plain text after `text`, with `gap` before the next one, and whether a line
ended in the last gap -/
def plainParts (inBrackets : Bool) (indent : Nat) :
    Nat → Text → Text → Bool → Scan (Text × Bool)
  | 0, text, _, ended => pure (text, ended)
  | fuel + 1, text, gap, ended => do
    if (← peek) = some '#' then pure (text, ended)
    else
      let part ← fun c => .ok (plainRun inBrackets c.rest, c)
      if part.isEmpty then pure (text, ended)
      else
        skip part.length
        let (nextGap, ended) ← plainGap
        let text := text ++ gap ++ part
        if nextGap.isEmpty || (← peek) == some '#' || (!inBrackets && (← column) < indent) then
          pure (text, ended)
        else plainParts inBrackets indent fuel text nextGap ended

/-- a plain text whose further lines are indented by at least `indent`, and whether a line ended
after it -/
def plain (inBrackets : Bool) (indent : Nat) : Scan (Text × Bool) := do
  plainParts inBrackets indent (← bound) [] [] false

/-! ## quoted texts -/

/-- the character of a short escape -/
def shortEscape? (c : Char) : Option Char :=
  let table : List (Char × Char) := [
    ('0', '\x00'), ('a', '\x07'), ('b', '\x08'), ('t', '\t'), ('\t', '\t'), ('n', '\n'),
    ('v', '\x0b'), ('f', '\x0c'), ('r', '\r'), ('e', '\x1b'), (' ', ' '), ('"', '"'), ('\\', '\\'),
    ('/', '/'), ('N', '\x85'), ('_', '\xa0'), ('L', '\u2028'), ('P', '\u2029')]
  table.lookup c

/-- how many digits follow the letter of an escape by code -/
def codeLength? (c : Char) : Option Nat :=
  if c = 'x' then some 2 else if c = 'u' then some 4 else if c = 'U' then some 8 else none

/-- the character of a code -/
def charOf (n : Nat) : Scan Char :=
  if 0x80000000 ≤ n then refuse .codeTooLong
  else if 0x110000 ≤ n then refuse .codeTooLarge
  else pure (charOfCode n)

/-- a number of hexadecimal digits -/
def hexDigits : Nat → Nat → Mistake → Scan Nat
  | 0, n, _ => pure n
  | k + 1, n, mistake => do
    match (← peek).bind Text.hexDigit? with
    | none => fail mistake
    | some d =>
      skip
      hexDigits k (16 * n + d) mistake

/-- the ends of lines inside quotes, with the white space around them -/
def quotedBreaks : Nat → Text → Scan Text
  | 0, breaks => pure breaks
  | fuel + 1, breaks => do
    if ← atSeparator then fail .unclosedQuotes
    else
      let _ ← run fun c => c == ' ' || c == '\t'
      match ← lineBreak? with
      | none => pure breaks
      | some b => quotedBreaks fuel (breaks ++ [b])

/-- what an escape stands for; the backslash is behind us -/
def escape : Scan Text := do
  match ← peek with
  | none => fail .unknownEscape
  | some c =>
    if let some e := shortEscape? c then
      skip
      pure [e]
    else if let some n := codeLength? c then
      skip
      let code ← hexDigits n 0 .unknownEscape
      pure [← charOf code]
    else if isBreak c then
      skip
      quotedBreaks (← bound) []
    else fail .unknownEscape

/-- the white space inside quotes: as it is within a line, folded at the end of one -/
def quotedGap : Scan Text := do
  let spaces ← run fun c => c == ' ' || c == '\t'
  match ← lineBreak? with
  | some b => pure (folded b (← quotedBreaks (← bound) []))
  | none => if (← peek).isNone then fail .unclosedQuotes else pure spaces

/-- a text in quotes up to and with the closing quote `q`; `text` is what is read of it, reversed -/
def quotedParts (q : Char) : Nat → Text → Scan Text
  | 0, _ => fail .unclosedQuotes
  | fuel + 1, text => do
    match ← peek with
    | none => fail .unclosedQuotes
    | some c =>
      if isGap c then
        let gap ← quotedGap
        quotedParts q fuel (gap.reverse ++ text)
      else
        skip
        if c = q then
          if q = '\'' && (← peek) == some '\'' then
            skip
            quotedParts q fuel ('\'' :: text)
          else pure text.reverse
        else if c = '\\' && q == '"' then
          let e ← escape
          quotedParts q fuel (e.reverse ++ text)
        else quotedParts q fuel (c :: text)

/-- a text in quotes -/
def quoted (q : Char) : Scan Text := do
  skip
  quotedParts q (← bound) []

/-! ## blocks -/

/-- what becomes of the ends of lines at the end of a block -/
inductive Chomping where
  | strip
  | clip
  | keep
  deriving DecidableEq

/-- the chomping that a mark asks for -/
def chompingMark? : Scan (Option Chomping) := do
  match ← peek with
  | some '+' =>
    skip
    pure (some .keep)
  | some '-' =>
    skip
    pure (some .strip)
  | _ => pure none

/-- the indentation that a digit asks for, which is not zero -/
def indentMark? : Scan (Option Nat) := do
  match ← peek with
  | some c =>
    if !Text.isDigit c then pure none
    else if c = '0' then fail .malformedBlock
    else
      skip
      pure (some (c.toNat - '0'.toNat))
  | none => pure none

/-- the marks at the head of a block, in either order -/
def blockHead : Scan (Chomping × Option Nat) := do
  let early ← chompingMark?
  let indent ← indentMark?
  let late ← if early.isNone && indent.isSome then chompingMark? else pure none
  if isSpaceOrEnd (← peek) then
    restOfLine .malformedBlock
    pure (((early <|> late).getD .clip), indent)
  else fail .malformedBlock

/-- the empty lines at the beginning of a block, and the largest indentation among them -/
def blockStart : Nat → Text → Nat → Scan (Text × Nat)
  | 0, breaks, widest => pure (breaks, widest)
  | fuel + 1, breaks, widest => do
    let _ ← run (· == ' ')
    let widest := max widest (← column)
    match ← lineBreak? with
    | none => pure (breaks, widest)
    | some b => blockStart fuel (breaks ++ [b]) widest

/-- go on over spaces, but not beyond a column -/
def indentTo (indent : Nat) : Nat → Scan Unit
  | 0 => pure ()
  | fuel + 1 => do
    if (← column) < indent && (← peek) == some ' ' then
      skip
      indentTo indent fuel

/-- the empty lines of a block -/
def blockBreaks (indent : Nat) : Nat → Text → Scan Text
  | 0, breaks => pure breaks
  | fuel + 1, breaks => do
    indentTo indent (← bound)
    match ← lineBreak? with
    | none => pure breaks
    | some b => blockBreaks indent fuel (breaks ++ [b])

/-- is there a line of the block here? -/
def atBlockLine (indent : Nat) : Scan Bool := do
  pure ((← column) == indent && (← peek).isSome)

/-- does a line begin with something other than white space? -/
def beginsFlush : Scan Bool := do
  pure (((← peek).map fun c => c != ' ' && c != '\t').getD true)

/-- the lines of a block, with the empty ones before the next line, and at the end the last end of
a line and the empty lines after it -/
def blockLines (folding : Bool) (indent : Nat) : Nat → Text → Text → Scan (Text × Text × Text)
  | 0, text, breaks => pure (text, [], breaks)
  | fuel + 1, text, breaks => do
    let flush ← beginsFlush
    let line ← run fun c => !isBreak c
    let lineBreak := (← lineBreak?).toList
    let text := text ++ breaks ++ line
    let breaks ← blockBreaks indent (← bound) []
    if ← atBlockLine indent then
      let joint :=
        if folding && lineBreak == ['\n'] && flush && (← beginsFlush) then
          (if breaks.isEmpty then [' '] else [])
        else lineBreak
      blockLines folding indent fuel (text ++ joint) breaks
    else pure (text, lineBreak, breaks)

/-- a text in a block below a collection that is indented by `outer` -/
def block (outer : Int) : Scan Text := do
  let folding := (← peek) == some '>'
  skip
  let (chomping, mark) ← blockHead
  let least := (max (outer + 1) 1).toNat
  let (breaks, indent) ← match mark with
    | some n =>
      let indent := least + n - 1
      pure (← blockBreaks indent (← bound) [], indent)
    | none =>
      let (breaks, widest) ← blockStart (← bound) [] 0
      pure (breaks, max least widest)
  let (text, lineBreak, breaks) ←
    if ← atBlockLine indent then blockLines folding indent (← bound) [] breaks
    else pure ([], [], breaks)
  pure (match chomping with
    | .strip => text
    | .clip => text ++ lineBreak
    | .keep => text ++ lineBreak ++ breaks)

end Scan
end DatabaseTypes.Yaml
