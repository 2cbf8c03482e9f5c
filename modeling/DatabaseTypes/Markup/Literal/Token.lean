import DatabaseTypes.Text.Printable

/-!
# Tokens of literals

The parameters of a tag are written as a literal: names, numbers, texts and marks.

* `Markup.Token`      a token, with how many brackets are open after it
* `Markup.tokensOf`   the tokens of a text, or what is wrong with it in words
-/

namespace DatabaseTypes.Markup

/-- the kinds of tokens -/
inductive TokenKind where
  | name
  | number
  | text
  | mark
  | lineEnd
  /-- what no token can begin with; its text is the reason -/
  | broken
  /-- the end; its text is the bracket that is open -/
  | finish
  deriving DecidableEq

/-- a token, and how many brackets are open after it -/
structure Token where
  kind : TokenKind
  text : Text
  level : Nat

/-! ## names -/

/-- the ranges of characters beyond ASCII that are signs and no letters -/
def signRanges : List (Nat × Nat) := [
  (0x80, 0xa9), (0xab, 0xb4), (0xb6, 0xb9), (0xbb, 0xbf), (0xd7, 0xd7), (0xf7, 0xf7), (0x2c2, 0x2c5),
  (0x37e, 0x37e), (0x2000, 0x203e), (0x2041, 0x2053), (0x2055, 0x2070), (0x2072, 0x207e),
  (0x2080, 0x208f), (0x20a0, 0x20cf), (0x2100, 0x2101), (0x2103, 0x2106), (0x2190, 0x2bff),
  (0x2e00, 0x3004), (0x3008, 0x3020), (0x3030, 0x3030), (0xe000, 0xf8ff), (0xfe10, 0xfe1f),
  (0xfe30, 0xfe32), (0xfe35, 0xfe4c), (0xfe50, 0xfe6f), (0xff01, 0xff0f), (0xff1a, 0xff20),
  (0xff3b, 0xff3e), (0xff40, 0xff40), (0xff5b, 0xff65), (0xfff0, 0xffff), (0x1f000, 0x1faff)]

/-- can a name hold a character? -/
def isInName (c : Char) : Bool :=
  let n := c.toNat
  if n < 128 then Text.isLetter c || Text.isDigit c || c == '_'
  else Text.isPrintable c && !Text.inRanges signRanges n

/-- a code in words -/
def codeWord (c : Char) : Text :=
  let n := c.toNat
  let digits := (Text.hexadecimal (if n < 0x10000 then 4 else if n < 0x100000 then 5 else 6) n)
  ['U', '+'] ++ digits.map Char.toUpper

/-- a character that cannot stand where it stands -/
def badCharacter (c : Char) : Text :=
  if Text.isPrintable c then "invalid character '" ++ [c] ++ "' (" ++ codeWord c ++ [')']
  else "invalid non-printable character " ++ codeWord c

/-- can the character go on in a word, be it right or not? -/
def goesOn (c : Char) : Bool := 128 ≤ c.toNat || isInName c

/-- is a word in front of a quote the sort of a text? -/
def isSort (t : Text) : Bool :=
  let sorts : List Text := ["b", "br", "rb", "u", "r", "f", "fr", "rf"]
  sorts.contains (Text.lowerLetters t)

/-! ## numbers -/

/-- digits of a kind with single underscores between them, and what follows them -/
def digitRun (test : Char → Bool) : Nat → Text → Option (Text × Text)
  | 0, t => some ([], t)
  | fuel + 1, t =>
    let own := t.takeWhile test
    match t.drop own.length with
    | '_' :: c :: u =>
      if test c then (digitRun test fuel (c :: u)).map fun r => (own ++ '_' :: r.1, r.2) else none
    | ['_'] => none
    | rest => some (own, rest)

/-- a number may not be followed by a word, unless it is one that joins operands -/
def checkedEnd (kind : Text) (t : Text) : Except Text Unit :=
  let joins : List Text := ["and", "else", "for", "or", "not"]
  let starts : List Text := ["if", "in", "is"]
  let own := t.takeWhile goesOn
  match t with
  | [] => .ok ()
  | c :: _ =>
    let isJoin := joins.contains own || starts.any fun w => Text.startsWith w t
    if c.toNat < 128 && goesOn c && !isJoin then .error ("invalid " ++ kind ++ " literal")
    else .ok ()

/-- a number in a base after its letter, and what follows it -/
def basedNumber (kind : Text) (base : Nat) (t : Text) : Except Text Text := do
  let isOwn (c : Char) : Bool := (Text.hexDigit? c).any (· < base)
  let wrong : Text := "invalid " ++ kind ++ " literal"
  let wrongDigit (c : Char) : Text := "invalid digit '" ++ [c] ++ "' in " ++ kind ++ " literal"
  let rest ← run wrong wrongDigit isOwn (t.length + 1) t
  match rest with
  | c :: _ => if Text.isDigit c then throw (wrongDigit c)
  | [] => pure ()
  checkedEnd kind rest
  pure rest
where
  /-- runs of digits, each after at most one underscore -/
  run (wrong : Text) (wrongDigit : Char → Text) (isOwn : Char → Bool) : Nat → Text → Except Text Text
    | 0, t => .ok t
    | fuel + 1, t =>
      let u := if t.head? = some '_' then t.drop 1 else t
      match u with
      | c :: _ =>
        if isOwn c then
          let rest := u.dropWhile isOwn
          if rest.head? = some '_' then run wrong wrongDigit isOwn fuel rest else .ok rest
        else .error (if Text.isDigit c then wrongDigit c else wrong)
      | [] => .error wrong

/-- what follows the whole part of a number: places, an exponent, and the letter of an imaginary one -/
def afterWhole (t : Text) : Except Text Text := do
  let wrong : Text := "invalid decimal literal"
  let digits (t : Text) : Except Text Text :=
    match digitRun Text.isDigit (t.length + 1) t with
    | some (_, rest) => .ok rest
    | none => .error wrong
  let t ← match t with
    | '.' :: u => if u.head?.any Text.isDigit then digits u else pure u
    | t => pure t
  let (t, ended) ← match t with
    | e :: u =>
      if e != 'e' && e != 'E' then pure (t, false)
      else match u with
        | '+' :: v | '-' :: v =>
          if v.head?.any Text.isDigit then pure (← digits v, false) else throw wrong
        | v =>
          if v.head?.any Text.isDigit then pure (← digits v, false)
          else do
            checkedEnd "decimal" t
            pure (t, true)
    | [] => pure (t, false)
  match t with
  | c :: u =>
    if ended then pure t
    else if c = 'j' ∨ c = 'J' then do
      checkedEnd "imaginary" u
      pure u
    else do
      checkedEnd "decimal" t
      pure t
  | [] => pure t

/-- what follows a number at the front of a text -/
def afterNumber (t : Text) : Except Text Text := do
  let wrong : Text := "invalid decimal literal"
  match t with
  | '0' :: x :: u =>
    if x = 'x' ∨ x = 'X' then basedNumber "hexadecimal" 16 u
    else if x = 'o' ∨ x = 'O' then basedNumber "octal" 8 u
    else if x = 'b' ∨ x = 'B' then basedNumber "binary" 2 u
    else match digitRun Text.isDigit (t.length + 1) t with
      | none => throw wrong
      | some (own, rest) =>
        let pointed := rest.head?.any fun c => (".eEjJ".toList).contains c
        if own.any (fun c => c != '0' && c != '_') && !pointed then
          let zeros : Text := "leading zeros in decimal integer literals are not permitted; "
          throw (zeros ++ "use an 0o prefix for octal integers")
        afterWhole rest
  | '.' :: _ => afterWhole t
  | t => match digitRun Text.isDigit (t.length + 1) t with
    | none => throw wrong
    | some (_, rest) => afterWhole rest

/-! ## texts -/

/-- what follows a text after its opening quotes, and the number of its last line -/
def afterText (quote : Char) (long : Bool) (line : Nat) : Text → Except Text (Text × Nat)
  | [] =>
    let kind : Text := if long then "triple-quoted string literal" else "string literal"
    .error ("unterminated " ++ kind ++ " (detected at line " ++ Text.ofNat line ++ [')'])
  | '\\' :: c :: t => afterText quote long (if c = '\n' then line + 1 else line) t
  | c :: t =>
    if c = quote && (!long || (t.take 2 == [quote, quote])) then
      .ok (if long then t.drop 2 else t, line)
    else if c = '\n' then
      if long then afterText quote long (line + 1) t
      else .error ("unterminated string literal (detected at line " ++ Text.ofNat line ++ [')'])
    else afterText quote long line t

/-! ## all tokens -/

/-- the marks of several characters -/
def longMarks : List Text := ["**=", "//=", ">>=", "<<=", "...", "!=", "%=", "&=", "**", "*=", "+=",
  "-=", "->", "//", "/=", ":=", "<<", "<=", "<>", "==", ">=", ">>", "@=", "^=", "|="]

/-- the bracket that closes another one -/
def closer (c : Char) : Char := if c = '(' then ')' else '\x7d'

/-- a closing bracket, and the brackets that are still open; each comes with its line -/
def closed (c : Char) (line : Nat) : List (Char × Nat) → Except Text (List (Char × Nat))
  | [] => .error ("unmatched '" ++ [c, '\''])
  | (o, n) :: outer =>
    if closer o = c then .ok outer
    else
      let front : Text := "closing parenthesis '" ++ [c] ++ "' does not match opening parenthesis '"
      let place : Text := if n = line then [] else " on line ".toList ++ Text.ofNat n
      .error (front ++ [o, '\''] ++ place)

/-- the tokens of a text; `opened` are the brackets that are open, and `line` is the number of the
line.  Each step uses up a character. -/
def tokensFrom : Nat → List (Char × Nat) → Nat → Text → Except Text (List Token)
  | 0, _, _, _ => .ok []
  | _ + 1, opened, _, [] => .ok [⟨.finish, (opened.head?.map fun o => [o.1]).getD [], opened.length⟩]
  | fuel + 1, opened, line, c :: t => do
    let token (kind : TokenKind) (own : Text) : Token := ⟨kind, own, opened.length⟩
    let cut (rest : Text) : Text := (c :: t).take (t.length + 1 - rest.length)
    if c = ' ' ∨ c = '\t' ∨ c = '\x0c' then tokensFrom fuel opened line t
    else if c = '#' then tokensFrom fuel opened line (t.dropWhile (· != '\n'))
    else if c = '\n' then
      let more ← tokensFrom fuel opened (line + 1) t
      pure (if opened.isEmpty then token .lineEnd ['\n'] :: more else more)
    else if c = '\\' then match t with
      | ['\n'] => pure [token .broken "unexpected EOF while parsing"]
      | '\n' :: t => tokensFrom fuel opened (line + 1) t
      | _ => pure [token .broken "unexpected character after line continuation character"]
    else if Text.isDigit c || (c == '.' && t.head?.any Text.isDigit) then
      let rest ← afterNumber (c :: t)
      pure (token .number (cut rest) :: (← tokensFrom fuel opened line rest))
    else
      let word := (c :: t).takeWhile goesOn
      let after := (c :: t).drop word.length
      let quoted := after.head? == some '\'' || after.head? == some '"'
      if quoted && (word.isEmpty || isSort word) then
        let q := after.headD '\''
        let three := after.take 3 == [q, q, q]
        let two := after.take 2 == [q, q]
        let (rest, last) ←
          if three then afterText q true line (after.drop 3)
          else if two then pure (after.drop 2, line)
          else afterText q false line (after.drop 1)
        pure (token .text (cut rest) :: (← tokensFrom fuel opened last rest))
      else if !word.isEmpty then
        match word.find? fun c => !isInName c with
        | some bad => throw (badCharacter bad)
        | none => pure (token .name word :: (← tokensFrom fuel opened line after))
      else if c = '(' ∨ c = '\x7b' then
        pure (⟨.mark, [c], opened.length + 1⟩ :: (← tokensFrom fuel ((c, line) :: opened) line t))
      else if c = ')' ∨ c = '\x7d' then
        let outer ← closed c line opened
        pure (⟨.mark, [c], outer.length⟩ :: (← tokensFrom fuel outer line t))
      else if !Text.isPrintable c then throw (badCharacter c)
      else match longMarks.find? fun m => Text.startsWith m (c :: t) with
        | some m => pure (token .mark m :: (← tokensFrom fuel opened line (t.drop (m.length - 1))))
        | none => pure (token .mark [c] :: (← tokensFrom fuel opened line t))

/-- the tokens of a text, or what is wrong with it in words; the last one tells which bracket is open
at the end -/
def tokensOf (t : Text) : Except Text (List Token) :=
  let lines := Text.replaced ['\r'] ['\n'] (Text.replaced ['\r', '\n'] ['\n'] t)
  tokensFrom (lines.length + 2) [] 1 lines

end DatabaseTypes.Markup
