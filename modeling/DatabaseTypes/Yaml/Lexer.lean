import DatabaseTypes.Yaml.Token

/-!
# Cutting a settings file into tokens

Indentation opens and closes blocks.  A key is recognised only at the colon after it, so the place
where a key may begin is remembered, for the text outside brackets and for every open bracket, and
the tokens for the key are put there once the colon is met.

Tokens are cut only when they are asked for, so that a text is not looked at beyond the first failure.

* `Yaml.Candidate`        a place where a key may begin
* `Yaml.Lexer`            what is known between two tokens
* `Yaml.Lexer.ofText`     the beginning of a text
* `Yaml.Lexing.step`      one token further
* `Yaml.Lexing.front`     the next token
* `Yaml.Lexing.take`      go beyond it
-/

namespace DatabaseTypes.Yaml

/-! ## state -/

/-- a place where a key may begin: how many tokens come before it, whether there must be a key, and
the cursor there -/
structure Candidate where
  position : Nat
  isRequired : Bool
  start : Cursor

/-- the cursor, the tokens that are cut but not taken, the number of those that are taken, the
indentation of the blocks that are open, innermost first, the candidates for keys (outside brackets
and in every open bracket, innermost first), whether a key may begin here, and whether the text is at
its end -/
structure Lexer where
  cursor : Cursor
  tokens : List Lexeme := []
  taken : Nat := 0
  indents : List Nat := []
  candidates : List (Option Candidate) := [none]
  keyAllowed : Bool := true
  ended : Bool := false

/-- a step of cutting -/
abbrev Lexing := StateT Lexer (Except Stop)

namespace Lexer

/-- is there an open bracket? -/
def inBrackets (l : Lexer) : Bool := 1 < l.candidates.length

/-- the indentation of the innermost block; there is none at first -/
def indent (l : Lexer) : Int := (l.indents.head?.map Int.ofNat).getD (-1)

/-- the number of tokens so far -/
def count (l : Lexer) : Nat := l.taken + l.tokens.length

/-- the tokens with one more of them where `n` others come before it -/
def insertAt (n : Nat) (t : Lexeme) (l : Lexer) : List Lexeme :=
  l.tokens.take (n - l.taken) ++ t :: l.tokens.drop (n - l.taken)

/-- the largest distance between the beginning of a key and its colon -/
def longestKey : Nat := 1024

/-- the beginning of a text; a mark of byte order at its front is overlooked -/
def ofText (t : Text) : Lexer :=
  let start := Cursor.ofText t
  { cursor := if t.head? = some '\ufeff' then start.next else start }

/-- can the colon of a key still come? -/
def isFresh (l : Lexer) (k : Candidate) : Bool :=
  k.start.line == l.cursor.line && l.cursor.index - k.start.index ≤ longestKey

end Lexer

namespace Lexing

/-- a mistake at this place -/
def fail {α : Type} (m : Mistake) : Lexing α := fun l =>
  .error ⟨.mistake l.cursor.line m, l.cursor.index⟩

/-- a step through the text -/
def scan {α : Type} (s : Scan α) : Lexing α := fun l => do
  let (a, cursor) ← StateT.run s l.cursor
  pure (a, { l with cursor })

/-- a token added -/
def emit (t : Token) : Lexing Unit :=
  modify fun l => { l with tokens := l.tokens ++ [⟨l.cursor.line, t⟩] }

/-- say whether a key may begin here -/
def allowKey (allowed : Bool) : Lexing Unit := modify fun l => { l with keyAllowed := allowed }

/-! ## candidates -/

/-- drop the candidates whose colon can no longer come; a key that must be there is missed -/
def dropStale : Lexing Unit := do
  let l ← get
  let missed (k : Candidate) : Bool := !l.isFresh k && k.isRequired
  if l.candidates.any (Option.any missed) then fail .missingColon
  else set { l with candidates := l.candidates.map (Option.filter l.isFresh) }

/-- set the innermost candidate -/
def putCandidate (k : Option Candidate) : Lexing Unit :=
  modify fun l => { l with candidates := k :: l.candidates.drop 1 }

/-- drop the innermost candidate; a key that must be there is missed -/
def dropCandidate : Lexing Unit := do
  match (← get).candidates.head? with
  | some (some k) => if k.isRequired then fail .missingColon else putCandidate none
  | _ => pure ()

/-- remember this place as one where a key may begin -/
def saveCandidate : Lexing Unit := do
  let l ← get
  if l.keyAllowed then
    dropCandidate
    let isRequired := !l.inBrackets && l.indent == l.cursor.column
    putCandidate (some { position := l.count, isRequired, start := l.cursor })

/-! ## indentation -/

/-- close the blocks that are indented by more than `column` -/
def closeBlocks (column : Int) : Lexing Unit := do
  let l ← get
  if l.inBrackets then pure ()
  else
    let deeper := l.indents.takeWhile fun (i : Nat) => column < (i : Int)
    let closing := deeper.map fun _ => (⟨l.cursor.line, .closeBlock⟩ : Lexeme)
    set { l with indents := l.indents.drop deeper.length, tokens := l.tokens ++ closing }

/-- open a block at a column if it is indented by more than the innermost one; is it? -/
def openBlock (column : Nat) : Lexing Bool := do
  let l ← get
  if l.indent < column then
    set { l with indents := column :: l.indents }
    pure true
  else pure false

/-! ## marks -/

/-- white space and comments before a token; a key may begin on a new line outside brackets -/
def toNextToken : Nat → Lexing Unit
  | 0 => pure ()
  | fuel + 1 => do
    let _ ← scan (Scan.run (· == ' '))
    if (← scan Scan.peek) = some '#' then
      let _ ← scan (Scan.run fun c => !isBreak c)
    match ← scan Scan.lineBreak? with
    | none => pure ()
    | some _ =>
      if !(← get).inBrackets then allowKey true
      toNextToken fuel

/-- a token that is a mark of `n` characters -/
def mark (t : Token) (n : Nat := 1) : Lexing Unit := do
  emit t
  scan (Scan.skip n)

/-- a line that separates documents -/
def separator (t : Token) : Lexing Unit := do
  closeBlocks (-1)
  dropCandidate
  allowKey false
  mark t 3

/-- a directive -/
def directive : Lexing Unit := do
  closeBlocks (-1)
  dropCandidate
  allowKey false
  emit (← scan Scan.directive)

/-- a bracket that opens -/
def openBracket (t : Token) : Lexing Unit := do
  saveCandidate
  modify fun l => { l with candidates := none :: l.candidates }
  allowKey true
  mark t

/-- a bracket that closes -/
def closeBracket (t : Token) : Lexing Unit := do
  if (← get).inBrackets then
    dropCandidate
    modify fun l => { l with candidates := l.candidates.drop 1 }
    allowKey false
    mark t
  else fail .strayCharacter

/-- a comma -/
def comma : Lexing Unit := do
  allowKey true
  dropCandidate
  mark .comma

/-- a block opened outside brackets where a key may begin -/
def openAt (t : Token) (mistake : Mistake) : Lexing Unit := do
  let l ← get
  if l.inBrackets then pure ()
  else if !l.keyAllowed then fail mistake
  else if ← openBlock l.cursor.column then emit t

/-- the dash of an item -/
def item : Lexing Unit := do
  openAt .openBlockList .misplacedItem
  allowKey true
  dropCandidate
  mark .item

/-- the question mark of a key -/
def key : Lexing Unit := do
  openAt .openBlockMapping .misplacedKey
  allowKey !(← get).inBrackets
  dropCandidate
  mark .key

/-- tokens put where a candidate is -/
def insert (k : Candidate) (t : Token) : Lexing Unit :=
  modify fun l => { l with tokens := l.insertAt k.position ⟨k.start.line, t⟩ }

/-- the colon of a value: the candidate before it becomes the key -/
def value : Lexing Unit := do
  match (← get).candidates.head? with
  | some (some k) =>
    putCandidate none
    insert k .key
    if !(← get).inBrackets then
      if ← openBlock k.start.column then insert k .openBlockMapping
    allowKey false
  | _ =>
    openAt .openBlockMapping .misplacedValue
    allowKey !(← get).inBrackets
    dropCandidate
  mark .value

/-- a token with which a key may begin, and after which none does -/
def keyPart (s : Scan Token) : Lexing Unit := do
  saveCandidate
  allowKey false
  emit (← scan s)

/-- a block of lines -/
def block : Lexing Unit := do
  allowKey true
  dropCandidate
  let text ← scan (Scan.block (← get).indent)
  emit (.text text false)

/-- a plain text -/
def plain : Lexing Unit := do
  saveCandidate
  let l ← get
  let (text, ended) ← scan (Scan.plain l.inBrackets (l.indent + 1).toNat)
  allowKey ended
  emit (.text text true)

/-! ## one token -/

/-- can a plain text not begin with this character? -/
def isMark (c : Char) : Bool := "-?:,[]\x7b\x7d#&*!|>'\"%@\x60".toList.contains c

/-- does a plain text begin here? -/
def beginsPlain (inBrackets : Bool) (c : Char) (second : Option Char) : Bool :=
  (!isGap c && !isMark c)
    || (!isGapOrEnd second && (c == '-' || (!inBrackets && (c == '?' || c == ':'))))

/-- a token that begins with `c` -/
def token (c : Char) : Lexing Unit := do
  let l ← get
  let second ← scan (Scan.peek 1)
  let apart := isGapOrEnd second
  if c = '%' && l.cursor.column == 0 then directive
  else if l.cursor.column == 0 && l.cursor.atSeparator then
    separator (if c = '-' then .documentStart else .documentEnd)
  else if c = '[' then openBracket .openList
  else if c = '\x7b' then openBracket .openMapping
  else if c = ']' then closeBracket .closeList
  else if c = '\x7d' then closeBracket .closeMapping
  else if c = ',' then (if l.inBrackets then comma else fail .strayCharacter)
  else if c = '-' && apart then item
  else if c = '?' && (l.inBrackets || apart) then key
  else if c = ':' && (l.inBrackets || apart) then value
  else if c = '*' then keyPart (do pure (.alias (← Scan.name)))
  else if c = '&' then keyPart (do pure (.anchor (← Scan.name)))
  else if c = '!' then keyPart Scan.tag
  else if (c = '|' || c = '>') && !l.inBrackets then block
  else if c = '\'' || c = '"' then keyPart (do pure (.text (← Scan.quoted c) false))
  else if beginsPlain l.inBrackets c second then plain
  else fail .strayCharacter

/-- one token further, or the end of the text -/
def step : Lexing Unit := do
  toNextToken (← scan Scan.bound)
  dropStale
  closeBlocks (← get).cursor.column
  match ← scan Scan.peek with
  | some c => token c
  | none =>
    closeBlocks (-1)
    dropCandidate
    modify fun l => { l with ended := true }

/-! ## tokens in turn -/

/-- is there no token that can be taken? The first one cannot as long as it may turn out to be the
beginning of a key. -/
def isShort : Lexing Bool := do
  let l ← get
  if l.ended then pure false
  else if l.tokens.isEmpty then pure true
  else
    dropStale
    pure ((← get).candidates.any (Option.any fun k => k.position == l.taken))

/-- steps until a token can be taken -/
def fill : Nat → Lexing Unit
  | 0 => pure ()
  | fuel + 1 => do
    if ← isShort then
      step
      fill fuel

/-- the next token, if there is one -/
def front : Lexing (Option Lexeme) := do
  fill ((← get).cursor.left + 1)
  pure (← get).tokens.head?

/-- go beyond the next token -/
def take : Lexing Unit := modify fun l => { l with tokens := l.tokens.drop 1, taken := l.taken + 1 }

end Lexing
end DatabaseTypes.Yaml
