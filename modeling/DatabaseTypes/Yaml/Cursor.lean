import DatabaseTypes.Fault

/-!
# Going through the text of a settings file

* `Yaml.Mistake`     why a text is not well formed
* `Yaml.Failure`     a mistake with its line, or a fault of a value
* `Yaml.Stop`        a failure with its place in the text
* `Yaml.Cursor`      the text that is left, and the place where it begins
* `Yaml.Scan`        a step through the text that gives something
-/

namespace DatabaseTypes.Yaml

/-! ## failures -/

/-- why a text is not well formed -/
inductive Mistake where
  | unprintableCharacter
  | strayCharacter
  | missingColon
  | misplacedKey
  | misplacedValue
  | misplacedItem
  | unclosedQuotes
  | unknownEscape
  | malformedBlock
  | malformedDirective
  | malformedAnchor
  | malformedTag
  | unexpectedToken
  | secondDocument
  | undeclaredHandle
  | repeatedAnchor
  | unknownAlias
  | unknownTag
  | unfitTag
  | unfitKey
  | unfitMerge
  | undecodableBytes
  deriving DecidableEq

/-- the mistake in words -/
def Mistake.message : Mistake → Text
  | .unprintableCharacter => "a character that is not printable"
  | .strayCharacter => "a character that cannot begin a token"
  | .missingColon => "a key without a colon"
  | .misplacedKey => "a key where there can be none"
  | .misplacedValue => "a value where there can be none"
  | .misplacedItem => "an item where there can be none"
  | .unclosedQuotes => "quotes that are not closed"
  | .unknownEscape => "an escape that is not known"
  | .malformedBlock => "a malformed head of a block of text"
  | .malformedDirective => "a malformed directive"
  | .malformedAnchor => "a malformed anchor or alias"
  | .malformedTag => "a malformed tag"
  | .unexpectedToken => "a token that does not belong here"
  | .secondDocument => "more than one document"
  | .undeclaredHandle => "a tag with an undeclared handle"
  | .repeatedAnchor => "an anchor that is there already"
  | .unknownAlias => "an alias without its anchor"
  | .unknownTag => "a tag that is not known"
  | .unfitTag => "a tag that does not fit"
  | .unfitKey => "a key that cannot be one"
  | .unfitMerge => "something other than mappings to merge"
  | .undecodableBytes => "bytes that are not written in base 64"

/-- why a text gives no value -/
inductive Failure where
  | mistake (line : Nat) (m : Mistake)
  | fault (f : Fault)

/-- a failure on the way through a text, with the number of characters before it -/
structure Stop where
  failure : Failure
  index : Nat

/-! ## characters -/

/-- may a text hold this character? -/
def isPrintable (c : Char) : Bool :=
  let n := c.toNat
  n == 9 || n == 10 || n == 13 || (0x20 ≤ n && n ≤ 0x7e) || n == 0x85
    || (0xa0 ≤ n && n ≤ 0xd7ff) || (0xe000 ≤ n && n ≤ 0xfffd) || 0x10000 ≤ n

/-- does the character end a line? Carriage returns are line feeds by now. -/
def isBreak (c : Char) : Bool :=
  c == '\n' || c == '\x85' || c == '\u2028' || c == '\u2029'

/-- does the character separate tokens? -/
def isGap (c : Char) : Bool := c == ' ' || c == '\t' || isBreak c

/-- is there a separator, or nothing at all? -/
def isGapOrEnd : Option Char → Bool
  | none => true
  | some c => isGap c

/-- is there a space, the end of a line, or nothing at all? -/
def isSpaceOrEnd : Option Char → Bool
  | none => true
  | some c => c == ' ' || isBreak c

/-- is there the end of a line, or nothing at all? -/
def isBreakOrEnd : Option Char → Bool
  | none => true
  | some c => isBreak c

/-- may a name of an anchor, a handle or a directive hold this character? -/
def isNameChar (c : Char) : Bool := Text.isLetter c || Text.isDigit c || c == '-' || c == '_'

/-! ## cursors -/

/-- the text that is left and how long it is, and the place where it begins: line, column, and the
number of characters before it -/
structure Cursor where
  rest : Text
  left : Nat
  line : Nat := 0
  column : Nat := 0
  index : Nat := 0

namespace Cursor

/-- the beginning of a text -/
def ofText (t : Text) : Cursor := { rest := t, left := t.length }

/-- one character further -/
def next (c : Cursor) : Cursor :=
  match c.rest with
  | [] => c
  | ch :: rest =>
    let left := c.left - 1
    if isBreak ch then { rest, left, line := c.line + 1, column := 0, index := c.index + 1 }
    else
      let column := if ch = '\ufeff' then c.column else c.column + 1
      { rest, left, line := c.line, column, index := c.index + 1 }

/-- the length of the text that is left stays known -/
theorem next_left (c : Cursor) (h : c.left = c.rest.length) : c.next.left = c.next.rest.length := by
  unfold next
  split
  · exact h
  · rename_i ch rest heq
    have hleft : c.left - 1 = rest.length := by rw [h, heq, List.length_cons, Nat.add_sub_cancel]
    simp only []
    split
    · exact hleft
    · exact hleft

/-- some characters further -/
def forward : Nat → Cursor → Cursor
  | 0, c => c
  | n + 1, c => forward n c.next

/-- does the line begin with the three characters that separate documents? -/
def atSeparator (c : Cursor) : Bool :=
  (Text.startsWith "---" c.rest || Text.startsWith "..." c.rest) && isGapOrEnd c.rest[3]?

end Cursor

/-! ## steps -/

/-- a step through the text -/
abbrev Scan := StateT Cursor (Except Stop)

namespace Scan

/-- a mistake at this place -/
def fail {α : Type} (m : Mistake) : Scan α := fun c => .error ⟨.mistake c.line m, c.index⟩

/-- a fault at this place -/
def refuse {α : Type} (f : Fault) : Scan α := fun c => .error ⟨.fault f, c.index⟩

/-- a character of the text that is left -/
def peek (n : Nat := 0) : Scan (Option Char) := fun c => .ok (c.rest[n]?, c)

/-- go some characters further -/
def skip (n : Nat := 1) : Scan Unit := fun c => .ok ((), c.forward n)

/-- the characters up to the first that fails `test` -/
def run (test : Char → Bool) : Scan Text := fun c =>
  let t := c.rest.takeWhile test
  .ok (t, c.forward t.length)

/-- an end of a line, which is a line feed unless it is one of the separators of Unicode -/
def lineBreak? : Scan (Option Char) := fun c =>
  match c.rest.head? with
  | none => .ok (none, c)
  | some ch =>
    if !isBreak ch then .ok (none, c)
    else .ok (some (if ch = '\x85' then '\n' else ch), c.next)

/-- more characters than are left, as a bound for repetitions -/
def bound : Scan Nat := fun c => .ok (c.left + 1, c)

/-- the column -/
def column : Scan Nat := fun c => .ok (c.column, c)

/-- does a line that separates documents begin here? -/
def atSeparator : Scan Bool := fun c => .ok (c.atSeparator, c)

/-- spaces, a comment, and the end of the line -/
def restOfLine (mistake : Mistake) : Scan Unit := do
  let _ ← run (· == ' ')
  if (← peek) = some '#' then
    let _ ← run fun c => !isBreak c
  if isBreakOrEnd (← peek) then
    let _ ← lineBreak?
  else fail mistake

end Scan
end DatabaseTypes.Yaml
