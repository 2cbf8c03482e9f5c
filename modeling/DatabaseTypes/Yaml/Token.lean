import DatabaseTypes.Yaml.Scalar

/-!
# Tokens of a settings file

* `Yaml.Token`           the tokens
* `Yaml.Lexeme`          a token with its line
* `Yaml.Scan.name`       the name of an anchor or an alias
* `Yaml.Scan.tag`        a tag
* `Yaml.Scan.directive`  a line with a directive
-/

namespace DatabaseTypes.Yaml

/-! ## tokens -/

/-- what a directive says -/
inductive Directive where
  /-- the version of the format, by its first number -/
  | version (major : Nat)
  /-- a handle for the beginnings of tags -/
  | handle (name beginning : Text)
  /-- something that is of no concern -/
  | other
  deriving DecidableEq

/-- the tokens; those that open and close blocks come from indentation -/
inductive Token where
  | directive (d : Directive)
  | documentStart
  | documentEnd
  | openBlockList
  | openBlockMapping
  | closeBlock
  | openList
  | closeList
  | openMapping
  | closeMapping
  | item
  | comma
  | key
  | value
  | alias (name : Text)
  | anchor (name : Text)
  | tag (handle : Option Text) (suffix : Text)
  | text (value : Text) (isPlain : Bool)
  deriving DecidableEq

/-- a token with its line -/
structure Lexeme where
  line : Nat
  token : Token

namespace Scan

/-! ## names -/

/-- may what follows a name of an anchor follow it? -/
def endsName : Option Char → Bool
  | none => true
  | some c => isGap c || ['?', ':', ',', ']', '\x7d', '%', '@', '\x60'].contains c

/-- the name of an anchor or an alias, after its mark -/
def name : Scan Text := do
  skip
  let name ← run isNameChar
  if !name.isEmpty && endsName (← peek) then pure name else fail .malformedAnchor

/-! ## tags -/

/-- may a tag hold this character? -/
def isTagChar (c : Char) : Bool :=
  Text.isLetter c || Text.isDigit c || "-;/?:@&=+$,_.!~*'()[]".toList.contains c

/-- the bytes of a sequence of escapes, each a percent sign and two digits -/
def tagBytes (mistake : Mistake) : Nat → Scan Bytes
  | 0 => pure []
  | fuel + 1 => do
    if (← peek) = some '%' then
      skip
      let n ← hexDigits 2 0 mistake
      pure (UInt8.ofNat n :: (← tagBytes mistake fuel))
    else pure []

/-- the text of a sequence of escapes -/
def tagEscapes (mistake : Mistake) : Scan Text := do
  match Text.ofBytes (← tagBytes mistake (← bound)) with
  | .ok t => pure t
  | .error _ => fail mistake

/-- the characters of a tag after `text` -/
def tagParts (mistake : Mistake) : Nat → Text → Scan Text
  | 0, text => pure text
  | fuel + 1, text => do
    let text := text ++ (← run isTagChar)
    if (← peek) = some '%' then tagParts mistake fuel (text ++ (← tagEscapes mistake))
    else pure text

/-- the characters of a tag; there must be some -/
def tagText (mistake : Mistake) : Scan Text := do
  let text ← tagParts mistake (← bound) []
  if text.isEmpty then fail mistake else pure text

/-- a handle: an exclamation mark, or a name between two of them -/
def handle (mistake : Mistake) : Scan Text := do
  if (← peek) = some '!' then
    skip
    if (← peek) = some ' ' then pure ['!']
    else
      let name ← run isNameChar
      if (← peek) = some '!' then
        skip
        pure ('!' :: name ++ ['!'])
      else fail mistake
  else fail mistake

/-- is there a second exclamation mark before the tag ends? -/
def hasHandle : Scan Bool := do
  let rest ← fun c => .ok (c.rest.drop 1, c)
  pure ((rest.dropWhile fun c => c != ' ' && !isBreak c && c != '!').head? == some '!')

/-- the handle of a tag, if it has one, and the rest of it -/
def tagContent : Scan (Option Text × Text) := do
  let second ← peek 1
  if second = some '<' then
    skip 2
    let text ← tagText .malformedTag
    if (← peek) = some '>' then
      skip
      pure (none, text)
    else fail .malformedTag
  else if isGapOrEnd second then
    skip
    pure (none, ['!'])
  else
    let h ← if ← hasHandle then handle .malformedTag else do
      skip
      pure ['!']
    pure (some h, ← tagText .malformedTag)

/-- a tag -/
def tag : Scan Token := do
  let (handle, suffix) ← tagContent
  if isSpaceOrEnd (← peek) then pure (.tag handle suffix) else fail .malformedTag

/-! ## directives -/

/-- a number of decimal digits -/
def number : Scan Nat := do
  let digits ← run Text.isDigit
  if digits.isEmpty then fail .malformedDirective
  else pure (digits.foldl (fun n c => 10 * n + (c.toNat - '0'.toNat)) 0)

/-- the version of the format -/
def version : Scan Directive := do
  let _ ← run (· == ' ')
  let major ← number
  if (← peek) = some '.' then
    skip
    let _ ← number
    if isSpaceOrEnd (← peek) then pure (.version major) else fail .malformedDirective
  else fail .malformedDirective

/-- a handle and what it stands for -/
def handleDirective : Scan Directive := do
  let _ ← run (· == ' ')
  let name ← handle .malformedDirective
  if (← peek) = some ' ' then
    let _ ← run (· == ' ')
    let beginning ← tagText .malformedDirective
    if isSpaceOrEnd (← peek) then pure (.handle name beginning) else fail .malformedDirective
  else fail .malformedDirective

/-- what a directive of a name says -/
def directiveContent (name : Text) : Scan Directive := do
  if name = "YAML" then version
  else if name = "TAG" then handleDirective
  else
    let _ ← run fun c => !isBreak c
    pure .other

/-- a line with a directive -/
def directive : Scan Token := do
  skip
  let name ← run isNameChar
  if !name.isEmpty && isSpaceOrEnd (← peek) then
    let d ← directiveContent name
    restOfLine .malformedDirective
    pure (.directive d)
  else fail .malformedDirective

end Scan
end DatabaseTypes.Yaml
