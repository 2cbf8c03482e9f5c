import DatabaseTypes.Filter.Shell.Grammar

/-!
# Reading a shell's lines

* `Shell.Place`       what is left of a script, and the number of its line
* `Shell.Refusal`     why a script is none
* `Shell.Reader`      a step of reading
* `Shell.readLine?`   the commands of the next line
-/

namespace DatabaseTypes.Filter.Shell

/-- why a script is none, and on which line -/
structure Refusal where
  line : Nat
  message : Text

/-- how scripts inside a script are read -/
structure Inner where
  /-- from a text and the number of its line: what follows the bracket that ends a script, and the number
  of the line there -/
  afterBracket : Text → Nat → Except Refusal (Text × Nat) := fun t line => .ok (t, line)
  /-- why a whole text is no script -/
  refusal? : Text → Nat → Option Refusal := fun _ _ => none

/-- what is left of a script, the number of its line, how many lines stand elsewhere, and how scripts
inside it are read -/
structure Place where
  rest : Text
  line : Nat := 1
  skipped : Nat := 0
  inner : Inner := {}

/-- a step of reading -/
abbrev Reader := StateT Place (Except Refusal)

namespace Reader

/-- what is left -/
def rest : Reader Text := do pure (← get).rest

/-- the next character -/
def peek : Reader (Option Char) := do pure (← get).rest.head?

/-- one character read -/
def skip : Reader Unit := modify fun p => match p.rest with
  | [] => p
  | '\n' :: t => { p with rest := t, line := p.line + 1 + p.skipped, skipped := 0 }
  | _ :: t => { p with rest := t }

/-- several characters read -/
def skips : Nat → Reader Unit
  | 0 => pure ()
  | n + 1 => do
    skip
    skips n

/-- end with a refusal -/
def refuse {α : Type} (message : Text) : Reader α := do
  throw ⟨(← get).line, "Syntax error: " ++ message⟩

/-- characters of a kind -/
def taking (test : Char → Bool) : Reader Text := do
  let t := (← rest).takeWhile test
  skips t.length
  pure t

end Reader

open Reader

/-! ## characters -/

/-- does a character end a word? -/
def endsWord (c : Char) : Bool := (" \t\n;&|<>()".toList).contains c

/-- the names of one character that are no letters -/
def specialNames : Text := "@*#?$!-"

/-- the mark of an output of commands in the older way -/
def outputMark : Char := '\x60'

/-! ## what stands between brackets -/

mutual

/-- what stands before a closing bracket; `depth` brackets are open inside.  Each step goes down by
one. -/
def untilBracket : Nat → Nat → Reader Text
  | 0, _ => pure []
  | fuel + 1, depth => do
    match ← peek with
    | none => refuse "end of file unexpected (expecting \")\")"
    | some c =>
      skip
      if c = ')' && depth == 0 then pure []
      else
        let more ←
          if c = '\\' then do
            let d := (← rest).take 1
            skips d.length
            pure d
          else if c = '\'' then do
            let t := (← rest).takeWhile (· != '\'')
            skips (t.length + 1)
            pure (t ++ ['\''])
          else if c = '"' then quotedInside fuel
          else pure []
        let depth := if c = '(' then depth + 1 else if c = ')' then depth - 1 else depth
        let after ← untilBracket fuel depth
        pure (c :: more ++ after)

/-- what stands before a closing quote inside brackets, with the quote -/
def quotedInside : Nat → Reader Text
  | 0 => pure []
  | fuel + 1 => do
    match (← rest) with
    | [] => refuse "Unterminated quoted string"
    | '"' :: _ => do
      skip
      pure ['"']
    | '\\' :: c :: _ => do
      skips 2
      let after ← quotedInside fuel
      pure ('\\' :: c :: after)
    | '$' :: '(' :: _ => do
      skips 2
      let inner ← untilBracket fuel 0
      let after ← quotedInside fuel
      pure ("$(" ++ inner ++ [')'] ++ after)
    | c :: _ => do
      skip
      let after ← quotedInside fuel
      pure (c :: after)

end

/-- what stands before the mark that closes an output in the older way; a backslash before some
characters is dropped -/
def untilMark (inQuotes : Bool) : Nat → Reader Text
  | 0 => pure []
  | fuel + 1 => do
    match (← rest) with
    | [] => refuse "EOF in backquote substitution"
    | '\\' :: c :: _ => do
      skips 2
      let after ← untilMark inQuotes fuel
      if c = '\\' || c == '$' || c == outputMark || (inQuotes && c == '"') then pure (c :: after)
      else pure ('\\' :: c :: after)
    | c :: _ => do
      skip
      if c = outputMark then pure []
      else
        let after ← untilMark inQuotes fuel
        pure (c :: after)

/-! ## words -/

/-- where pieces stand: in a bare word, between quotes, between braces, or in a text of lines -/
inductive Setting where
  | bare
  | quotes
  | braces (quoted : Bool)
  | lines

/-- does the setting quote? -/
def Setting.quotes? : Setting → Bool
  | .bare => false
  | .quotes => true
  | .braces quoted => quoted
  | .lines => true

/-- the characters before which a backslash is dropped between quotes -/
def Setting.dropsBefore : Setting → Text
  | .lines => ['$', '\x60', '\\']
  | .braces _ => ['$', '\x60', '\\', '"', '\x7d']
  | _ => ['$', '\x60', '\\', '"']

/-- a name of a variable at the front -/
def nameAhead (t : Text) : Text :=
  match t with
  | [] => []
  | c :: _ =>
    if beginsName c then t.takeWhile isInName
    else if Text.isDigit c then t.takeWhile Text.isDigit
    else if specialNames.contains c then [c] else []

/-- the mark of a change at the front -/
def markAhead (t : Text) : Text :=
  let marks : List Text := [":-", ":=", ":?", ":+", "##", "%%", "-", "=", "?", "+", "#", "%"]
  (marks.find? fun m => Text.startsWith m t).getD []

/-- the script up to a bracket, which is skipped -/
def script : Reader Text := do
  let p ← get
  match p.inner.afterBracket p.rest p.line with
  | .error r => throw r
  | .ok (rest, line) =>
    set { p with rest, line }
    pure (p.rest.take (p.rest.length - rest.length - 1))

/-- one line counted back to where something began -/
def refuseAt {α : Type} (line : Nat) (message : Text) : Reader α :=
  throw ⟨line, "Syntax error: " ++ message⟩

mutual

/-- the pieces up to the end of their setting; each step goes down by one -/
def pieces (s : Setting) : Nat → Reader Word
  | 0 => pure []
  | fuel + 1 => do
    let more (w : Word) : Reader Word := do
      let after ← pieces s fuel
      pure (w ++ after)
    let line := (← get).line
    match (← rest) with
    | [] => match s with
      | .bare => pure []
      | .lines => pure []
      | .quotes => refuse "Unterminated quoted string"
      | .braces true => refuse "Unterminated quoted string"
      | .braces false => refuse "Missing '\x7d'"
    | c :: t =>
      let ends : Bool := match s with
        | .bare => endsWord c
        | .quotes => c == '"'
        | .braces _ => c == '\x7d'
        | .lines => false
      if ends then pure []
      else if c = '\\' then
        match t with
        | [] => do
          skip
          more [.quoted ['\\']]
        | '\n' :: _ => do
          skips 2
          more []
        | d :: _ => do
          skips 2
          if !s.quotes? || s.dropsBefore.contains d then more [.quoted [d]]
          else more [.quoted ['\\', d]]
      else if c = '\'' && !s.quotes? then do
        skip
        let own ← taking (· != '\'')
        if (← rest).isEmpty then refuseAt line "Unterminated quoted string"
        skip
        more [.quoted own]
      else if c = '"' && (match s with | .lines => false | .quotes => false | _ => true) then do
        skip
        let own ← pieces .quotes fuel
        skip
        match own with
        | [.parameter _ ['@'] .value] => more own
        | own => more (.quoted [] :: own)
      else if c = '$' then do
        skip
        let own ← dollar s.quotes? fuel
        more own
      else if c = outputMark then do
        skip
        let own ← untilMark s.quotes? fuel
        if let some r := (← get).inner.refusal? own line then throw r
        more [.output s.quotes? own]
      else do
        skip
        more [if s.quotes? then .quoted [c] else .plain c]

/-- the pieces after a dollar sign -/
def dollar (q : Bool) : Nat → Reader Word
  | 0 => pure []
  | fuel + 1 => do
    match (← rest) with
    | '(' :: '(' :: _ => do
      skip
      let before ← get
      let inner ← untilBracket fuel 0
      if inner.getLast? = some ')' then
        let (own, _) ← (pieces .lines fuel).run { ← get with rest := (inner.drop 1).dropLast }
        pure [.sum q own]
      else
        set before
        let script ← script
        pure [.output q script]
    | '(' :: _ => do
      skip
      let script ← script
      pure [.output q script]
    | '\x7b' :: _ => do
      skip
      let p ← braced q fuel
      pure [p]
    | t =>
      let name := nameAhead t
      let name := if name.head?.any Text.isDigit then name.take 1 else name
      skips name.length
      if name.isEmpty then pure [if q then .quoted ['$'] else .plain '$']
      else pure [.parameter q name .value]

/-- a variable after a brace -/
def braced (q : Bool) : Nat → Reader Piece
  | 0 => pure (.quoted [])
  | fuel + 1 => do
    let t ← rest
    let closed (n : Nat) (p : Piece) : Reader Piece := do
      skips n
      pure p
    let inner := nameAhead (t.drop 1)
    if t.head? = some '#' && !inner.isEmpty && (t.drop (inner.length + 1)).head? == some '\x7d' then
      closed (inner.length + 2) (.parameter q inner .length)
    else
      let name := nameAhead t
      let after := t.drop name.length
      let mark := markAhead after
      if after.head? = some '\x7d' && !name.isEmpty then
        closed (name.length + 1) (.parameter q name .value)
      else if Text.startsWith [':', '\x7d'] after && !name.isEmpty then
        skips (name.length + 2)
        let _ ← pieces (.braces q) fuel
        skip
        pure (.parameter q name .value)
      else
        skips (name.length + mark.length)
        let isPattern := mark.head? == some '#' || mark.head? == some '%'
        let word ← pieces (.braces (q && !isPattern)) fuel
        skip
        pure (.parameter q name (if name.isEmpty || mark.isEmpty then .bad else .changed mark word))

end

/-! ## between words -/

/-- remarks and blanks skipped; each step uses up a character -/
def blanksFrom : Nat → Reader Unit
  | 0 => pure ()
  | fuel + 1 => do
    match (← rest) with
    | ' ' :: _ | '\t' :: _ => do
      skip
      blanksFrom fuel
    | '\\' :: '\n' :: _ => do
      skips 2
      blanksFrom fuel
    | '#' :: t => do
      skips (1 + (t.takeWhile (· != '\n')).length)
      blanksFrom fuel
    | _ => pure ()

/-- remarks and blanks skipped -/
def blanks : Reader Unit := do blanksFrom ((← rest).length + 1)

/-- the ends of lines skipped; each step uses up a character -/
def linesFrom : Nat → Reader Unit
  | 0 => pure ()
  | fuel + 1 => do
    blanks
    if (← peek) = some '\n' then
      skip
      linesFrom fuel

/-- the ends of lines skipped -/
def emptyLines : Reader Unit := do linesFrom ((← rest).length + 1)

/-- the words with a meaning of their own at the front of a command -/
def reserved : List Text := ["!", "\x7b", "\x7d", "case", "do", "done", "elif", "else", "esac", "fi",
  "for", "if", "in", "then", "until", "while"]

/-- the plain word ahead, if its end is a word's end -/
def plainAhead : Reader Text := do pure ((← rest).takeWhile fun c => !endsWord c)

/-- the operators between commands -/
def operators : List Text := [";;", "&&", "||", ";", "&", "|", "(", ")"]

/-- what is ahead, in words -/
def ahead : Reader Text := do
  blanks
  let t ← rest
  match t with
  | [] => pure "end of file"
  | '\n' :: _ => pure "newline"
  | c :: u =>
    let inQuotes (o : Text) : Text := ['"'] ++ o ++ ['"']
    match operators.find? fun o => Text.startsWith o t with
    | some o => pure (inQuotes o)
    | none =>
      let redirects := c == '<' || c == '>' ||
        (Text.isDigit c && (u.head? == some '<' || u.head? == some '>'))
      let word ← plainAhead
      if redirects then pure "redirection"
      else if reserved.contains word then pure (inQuotes word)
      else pure "word"

/-- a refusal of what is ahead -/
def unexpected {α : Type} (expected : Option Text := none) : Reader α := do
  let what ← ahead
  refuse (what ++ " unexpected" ++ match expected with
    | some e => " (expecting " ++ e ++ [')']
    | none => [])

/-- a reserved word that must be ahead -/
def expect (word : Text) : Reader Unit := do
  emptyLines
  if (← plainAhead) = word then skips word.length
  else unexpected (some (['"'] ++ word ++ ['"']))

/-! ## redirections -/

/-- the marks of redirections -/
def redirectionMarks : List Text := ["<<-", "<<", ">>", "<&", ">&", "<>", ">|", "<", ">"]

/-- the lines of a text in the script up to a line that closes it, and the number of lines used up -/
def linesUntil (closing : Text) (strips : Bool) : List Text → List Text × Nat
  | [] => ([], 0)
  | l :: ls =>
    let l := if strips then l.dropWhile (· == '\t') else l
    if l = closing then ([], 1)
    else
      let (more, n) := linesUntil closing strips ls
      (l :: more, n + 1)

/-- the text in the script that a redirection asks for; it begins on the next line and is taken out
of the script -/
def textInScript (fuel : Nat) (strips : Bool) (closing : Word) : Reader Word := do
  let t ← rest
  let own := t.takeWhile (· != '\n')
  let below := t.drop (own.length + 1)
  let endsInFeed := below.getLast? == some '\n'
  let all := Text.split '\n' (if endsInFeed then below.dropLast else below)
  let (ls, n) := if below.isEmpty then ([], 0) else linesUntil (bareText closing) strips all
  let after := Text.joined ['\n'] (all.drop n)
  let feed (l : Text) : Text := l ++ ['\n']
  let body := if n ≤ ls.length && !endsInFeed then (ls.flatMap feed).dropLast else ls.flatMap feed
  modify fun p => { p with rest := own ++ ['\n'] ++ after, skipped := p.skipped + n }
  if hasQuotes closing then pure [.quoted body]
  else
    let (w, _) ← (pieces .lines fuel).run { ← get with rest := body }
    pure w

/-- a redirection, if one is ahead -/
def redirection? (fuel : Nat) : Reader (Option Redirection) := do
  blanks
  let t ← rest
  let digits := (t.take 1).takeWhile Text.isDigit
  match redirectionMarks.find? fun m => Text.startsWith m (t.drop digits.length) with
  | none => pure none
  | some mark =>
    skips (digits.length + mark.length)
    blanks
    let target ← pieces .bare fuel
    if target.isEmpty then unexpected
    let number := match digits with
      | d :: _ => d.toNat - '0'.toNat
      | [] => if mark.head? = some '<' then 0 else 1
    if Text.startsWith "<<" mark then
      let body ← textInScript fuel (mark == "<<-".toList) target
      pure (some ⟨number, "<<", body⟩)
    else pure (some ⟨number, mark, target⟩)

/-- the redirections ahead; each step uses up a character -/
def redirections (fuel : Nat) : Nat → Reader (List Redirection)
  | 0 => pure []
  | n + 1 => do
    match ← redirection? fuel with
    | none => pure []
    | some r =>
      let rs ← redirections fuel n
      pure (r :: rs)

/-! ## commands -/

/-- the name and the value of an assignment -/
def assignment? (w : Word) : Option (Text × Word) :=
  let front := w.takeWhile fun p => match p with
    | .plain c => c != '='
    | _ => false
  match w.drop front.length with
  | .plain '=' :: value =>
    let name := bareText front
    if isName name then some (name, value) else none
  | _ => none

/-- a simple command that is being read -/
structure Simple where
  assignments : List (Text × Word) := []
  words : List Word := []
  redirections : List Redirection := []

/-- the rest of a simple command; each step uses up a character -/
def simpleFrom (fuel : Nat) : Nat → Simple → Reader Simple
  | 0, c => pure c
  | n + 1, c => do
    match ← redirection? fuel with
    | some r => simpleFrom fuel n { c with redirections := c.redirections ++ [r] }
    | none =>
      let w ← pieces .bare fuel
      if w.isEmpty then pure c
      else match c.words, assignment? w with
        | [], some a => simpleFrom fuel n { c with assignments := c.assignments ++ [a] }
        | _, _ => simpleFrom fuel n { c with words := c.words ++ [w] }

/-- does a list of commands end here? -/
def listEnds : Reader Bool := do
  blanks
  let t ← rest
  let word ← plainAhead
  pure (t.isEmpty || t.head? == some ')' || Text.startsWith ";;" t
    || ["\x7d".toList, "do".toList, "done".toList, "elif".toList, "else".toList, "esac".toList,
      "fi".toList, "then".toList].contains word)

/-- a command that does nothing; it stands where a script ends too early, which whoever reads on will
find -/
def nothing : Command := .simple 0 [] [] []

/-- commands joined one after the other -/
def joinedCommands : List Command → Option Command
  | [] => none
  | c :: cs => some (cs.foldl .sequence c)

mutual

/-- commands up to the end of their list; each step goes down by one -/
def commandList : Nat → Reader Command
  | 0 => unexpected
  | fuel + 1 => do
    emptyLines
    if (← rest).isEmpty then pure nothing
    else
      let c ← alternatives fuel
      blanks
      let t ← rest
      if Text.startsWith ";;" t then pure c
      else match t with
        | ';' :: _ | '\n' :: _ => do
          skip
          emptyLines
          if ← listEnds then pure c
          else
            let more ← commandList fuel
            pure (.sequence c more)
        | '&' :: _ => do
          skip
          emptyLines
          if ← listEnds then pure (.background c)
          else
            let more ← commandList fuel
            pure (.sequence (.background c) more)
        | _ => pure c

/-- pipelines joined by marks of success and failure -/
def alternatives : Nat → Reader Command
  | 0 => unexpected
  | fuel + 1 => do
    let c ← pipeline fuel
    moreAlternatives c fuel

/-- the rest of joined pipelines -/
def moreAlternatives (c : Command) : Nat → Reader Command
  | 0 => pure c
  | fuel + 1 => do
    blanks
    let t ← rest
    if Text.startsWith "&&" t || Text.startsWith "||" t then
      skips 2
      emptyLines
      let d ← pipeline fuel
      moreAlternatives (if t.head? = some '&' then .both c d else .either c d) fuel
    else pure c

/-- commands of which each reads what the one before it writes -/
def pipeline : Nat → Reader Command
  | 0 => unexpected
  | fuel + 1 => do
    blanks
    if (← plainAhead) = ['!'] then
      skip
      let c ← pipeline fuel
      pure (.inverted c)
    else
      let cs ← piped fuel
      match cs with
      | [c] => pure c
      | cs => pure (.pipeline cs)

/-- the commands of a pipeline -/
def piped : Nat → Reader (List Command)
  | 0 => unexpected
  | fuel + 1 => do
    let c ← command fuel
    blanks
    match (← rest) with
    | '|' :: '|' :: _ => pure [c]
    | '|' :: _ => do
      skip
      emptyLines
      let cs ← piped fuel
      pure (c :: cs)
    | _ => pure [c]

/-- a command with its redirections -/
def command : Nat → Reader Command
  | 0 => unexpected
  | fuel + 1 => do
    blanks
    let line := (← get).line
    let word ← plainAhead
    let opens := (← peek) == some '('
    if opens || ["\x7b".toList, "case".toList, "for".toList, "if".toList, "until".toList,
        "while".toList].contains word then
      let c ← compound line (if opens then ['('] else word) fuel
      match ← redirections fuel fuel with
      | [] => pure c
      | rs => pure (.redirected line c rs)
    else if reserved.contains word then unexpected
    else simpleOrDefinition line fuel

/-- a simple command, or the definition of one -/
def simpleOrDefinition (line : Nat) : Nat → Reader Command
  | 0 => unexpected
  | fuel + 1 => do
    let c ← simpleFrom fuel (fuel + 1) {}
    if c.assignments.isEmpty && c.words.isEmpty && c.redirections.isEmpty then unexpected
    let opens := (← peek) == some '('
    match c.words with
    | [w] =>
      if opens && c.assignments.isEmpty && c.redirections.isEmpty then
        skip
        blanks
        if (← peek) != some ')' then unexpected (some "\")\"".toList)
        skip
        let name := (plainText? w).getD []
        if !isName name || special.contains name then refuse "Bad function name"
        emptyLines
        let body ← command fuel
        pure (.definition name body)
      else pure (.simple line c.assignments c.words c.redirections)
    | _ => pure (.simple line c.assignments c.words c.redirections)

/-- a command that begins with a word of its own -/
def compound (line : Nat) (word : Text) : Nat → Reader Command
  | 0 => unexpected
  | fuel + 1 => do
    skips word.length
    if word = ['('] then
      let c ← commandList fuel
      blanks
      if (← peek) != some ')' then unexpected (some "\")\"".toList)
      skip
      pure (.apart c)
    else if word = ['\x7b'] then
      let c ← commandList fuel
      expect ['\x7d']
      pure c
    else if word = "if".toList then afterIf fuel
    else if word = "case".toList then
      blanks
      let subject ← pieces .bare fuel
      if subject.isEmpty then unexpected (some "word".toList)
      expect "in".toList
      let cs ← cases fuel
      pure (.choice line subject cs)
    else if word = "for".toList then
      blanks
      let name ← plainAhead
      if !isName name then refuse "Bad for loop variable"
      skips name.length
      emptyLines
      let words ← if (← plainAhead) = "in".toList then do
          skips 2
          let c ← simpleFrom fuel (fuel + 1) {}
          let ws := (c.assignments.map fun a => a.1.map Piece.plain ++ .plain '=' :: a.2) ++ c.words
          blanks
          match (← rest) with
          | ';' :: _ | '\n' :: _ => skip
          | _ => unexpected
          pure (some ws)
        else do
          if (← peek) = some ';' then skip
          pure none
      expect "do".toList
      let body ← commandList fuel
      expect "done".toList
      pure (.each line name words body)
    else
      let test ← commandList fuel
      expect "do".toList
      let body ← commandList fuel
      expect "done".toList
      pure (.repeated (word == "while".toList) test body)

/-- what follows an `if` or an `elif` -/
def afterIf : Nat → Reader Command
  | 0 => unexpected
  | fuel + 1 => do
    let test ← commandList fuel
    expect "then".toList
    let yes ← commandList fuel
    emptyLines
    let word ← plainAhead
    if word = "elif".toList then
      skips 4
      let no ← afterIf fuel
      pure (.conditional test yes (some no))
    else if word = "else".toList then
      skips 4
      let no ← commandList fuel
      expect "fi".toList
      pure (.conditional test yes (some no))
    else
      expect "fi".toList
      pure (.conditional test yes none)

/-- the cases of a choice -/
def cases : Nat → Reader (List (List Word × Option Command))
  | 0 => unexpected
  | fuel + 1 => do
    emptyLines
    if (← plainAhead) = "esac".toList then
      skips 4
      pure []
    else
      if (← peek) = some '(' then skip
      let patterns ← alternativePatterns fuel
      emptyLines
      let body ← if ← listEnds then pure none else do
        let c ← commandList fuel
        pure (some c)
      emptyLines
      if (← plainAhead) = "esac".toList then
        skips 4
        pure [(patterns, body)]
      else if Text.startsWith ";;" (← rest) then
        skips 2
        let more ← cases fuel
        pure ((patterns, body) :: more)
      else unexpected (some "\";;\"".toList)

/-- the patterns of a case -/
def alternativePatterns : Nat → Reader (List Word)
  | 0 => unexpected
  | fuel + 1 => do
    blanks
    let w ← pieces .bare fuel
    blanks
    match (← peek) with
    | some ')' => do
      if w.isEmpty then unexpected
      skip
      pure [w]
    | some '|' => do
      skip
      let ws ← alternativePatterns fuel
      pure (w :: ws)
    | _ => unexpected (some "\")\"".toList)

end

/-! ## lines -/

/-- the commands of a line; each step goes down by one -/
def lineFrom (fuel : Nat) : Nat → Reader (List Command)
  | 0 => pure []
  | n + 1 => do
    blanks
    let t ← rest
    if t.isEmpty || t.head? == some '\n' then
      skip
      pure []
    else
      let c ← alternatives fuel
      blanks
      match (← rest) with
      | [] => pure [c]
      | '\n' :: _ => do
        skip
        pure [c]
      | ';' :: ';' :: _ => unexpected
      | ';' :: _ => do
        skip
        let cs ← lineFrom fuel n
        pure (c :: cs)
      | '&' :: _ => do
        skip
        let cs ← lineFrom fuel n
        pure (.background c :: cs)
      | _ => unexpected

/-- a script up to the bracket that ends it -/
def bracketed (fuel : Nat) : Reader Unit := do
  emptyLines
  if (← peek) != some ')' then
    let _ ← commandList fuel
    blanks
    if (← peek) != some ')' then unexpected (some "\")\"".toList)
  skip

/-- enough steps for a text -/
def stepsFor (t : Text) : Nat := 8 * t.length + 16

/-- how scripts inside are read: they can stand inside each other so deep -/
def Inner.ofDepth : Nat → Inner
  | 0 => {}
  | depth + 1 =>
    let inner := ofDepth depth
    { afterBracket := fun rest line =>
        ((bracketed (stepsFor rest)).run { rest, line, inner }).map fun (_, p) => (p.rest, p.line)
      refusal? := fun rest line =>
        let rec from? : Nat → Place → Option Refusal
          | 0, _ => none
          | fuel + 1, p =>
            if p.rest.isEmpty then none
            else match (lineFrom (stepsFor rest) (stepsFor rest)).run p with
              | .error r => some r
              | .ok (_, p) => from? fuel p
        from? (rest.length + 1) { rest, line, inner } }

/-- how deep scripts can stand inside each other -/
def greatestNesting : Nat := 50

/-- the commands of the next line, if there are any, and where the line after it begins -/
def readLine? (p : Place) : Except Refusal (Option Command × Place) :=
  let fuel := stepsFor p.rest
  ((lineFrom fuel fuel).run { p with inner := .ofDepth greatestNesting }).map fun (cs, p) =>
    (joinedCommands cs, p)

end DatabaseTypes.Filter.Shell
