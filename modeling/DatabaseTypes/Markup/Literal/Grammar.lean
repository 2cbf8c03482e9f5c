import DatabaseTypes.Markup.Literal.Token

/-!
# The grammar of literals

A literal is an expression, and a text that is none is refused with a reason.  The text is read
twice: the second reading, which follows only if the first one fails, looks for mistakes that have a
reason of their own.

* `Markup.Expression`        what a text says
* `Markup.Expression.word`   the sort of an expression in words
* `Markup.Reading`           a step of reading
* `Markup.expressionOf`      the expression of a text, or why it is none
-/

namespace DatabaseTypes.Markup

/-! ## expressions -/

/-- what a text says; of what is no literal only the sort is kept -/
inductive Expression where
  | name (t : Text)
  | constant (word : Text)
  | number (imaginary : Bool)
  | text
  | tuple (parts : List Expression)
  | set (parts : List Expression)
  | dictionary (keys : List (Option Expression)) (values : List Expression)
  /-- a number after a sign -/
  | signed (part : Expression)
  /-- a sum or a difference -/
  | sum (left right : Expression)
  | call (function : Expression) (bare : Bool)
  /-- a comparison, which may ask whether something is a member -/
  | comparison (left : Expression) (asksMember : Bool)
  /-- anything else, by its sort -/
  | other (word : Text)

/-- the sort of an expression in words -/
def Expression.word : Expression → Text
  | .name _ => "name"
  | .constant word => word
  | .number _ => "literal"
  | .text => "literal"
  | .tuple _ => "tuple"
  | .set _ => "set display"
  | .dictionary _ _ => "dict literal"
  | .signed _ => "expression"
  | .sum _ _ => "expression"
  | .call _ _ => "function call"
  | .comparison _ _ => "comparison"
  | .other word => word

/-- can an expression stand for what is made? -/
def Expression.isTarget : Expression → Bool
  | .name _ => true
  | .tuple es => areTargets es
  | .other word => word == "attribute".toList
  | _ => false
where
  /-- can all expressions? -/
  areTargets : List Expression → Bool
    | [] => true
    | e :: es => e.isTarget && areTargets es

/-- the first part of an expression that cannot stand for what is made -/
def Expression.badTarget? : Expression → Option Expression
  | .name _ => none
  | .tuple es => firstBad es
  | .comparison left asksMember => if asksMember then left.badTarget? else none
  | .other word => if word = "attribute" ∨ word = "starred" then none else some (.other word)
  | e => some e
where
  /-- the first bad part of several expressions -/
  firstBad : List Expression → Option Expression
    | [] => none
    | e :: es => e.badTarget? <|> firstBad es

/-- the words with a meaning of their own -/
def keywords : List Text := ["False", "None", "True", "and", "as", "assert", "async", "await", "break",
  "class", "continue", "def", "del", "elif", "else", "except", "finally", "for", "from", "global",
  "if", "import", "in", "is", "lambda", "nonlocal", "not", "or", "pass", "raise", "return", "try",
  "while", "with", "yield"].map String.toList

/-- the words that have a meaning of their own in some places -/
def softKeywords : List Text := ["_", "case", "match"]

/-! ## steps -/

/-- which rule was tried at a place -/
inductive RuleName where
  | expression
  | named
  | alternative
  | bits
  deriving DecidableEq

/-- what rules have given at places so far -/
abbrev Memory := List ((RuleName × Nat) × Option (Expression × Nat))

/-- a step of reading, which may find nothing, or end the reading with a reason -/
abbrev Reading := OptionT (StateT Memory (Except Text))

/-- the tokens of a text, and whether mistakes are looked for -/
structure Source where
  tokens : Array Token
  strict : Bool

namespace Reading

/-- end the reading with a reason -/
def refuse {α : Type} (reason : Text) : Reading α := OptionT.lift (throw reason)

/-- the token at a place; one that would lie behind the end of an open bracket is refused -/
def token (s : Source) (i : Nat) : Reading Token :=
  match s.tokens[i]? with
  | none => pure ⟨.finish, [], 0⟩
  | some t =>
    if t.kind = .finish && !t.text.isEmpty then refuse ("'" ++ t.text ++ "' was never closed")
    else if t.kind = .broken then refuse t.text
    else pure t

/-- a word or a mark -/
def word (s : Source) (w : Text) (i : Nat) : Reading Nat := do
  let t ← token s i
  if (t.kind = .mark || t.kind = .name) && t.text == w then pure (i + 1) else failure

/-- a name that is no keyword -/
def name (s : Source) (i : Nat) : Reading (Text × Nat) := do
  let t ← token s i
  if t.kind = .name && !keywords.contains t.text then pure (t.text, i + 1) else failure

/-- is something there? -/
def found {α : Type} (r : Reading α) : Reading Bool := (r >>= fun _ => pure true) <|> pure false

/-- a step after which none of some words follows -/
def notBefore (s : Source) (ws : List Text) (r : Expression × Nat) : Reading (Expression × Nat) := do
  if ← found (ws.foldr (fun w more => word s w r.2 <|> more) failure) then failure else pure r

/-- the first of some words that is there -/
def oneOf (s : Source) (ws : List Text) (i : Nat) : Reading (Text × Nat) :=
  ws.foldr (fun w more => (do pure (w, ← word s w i)) <|> more) failure

/-- what a rule has given at a place before, or gives now -/
def remembered (rule : RuleName) (i : Nat) (r : Reading (Expression × Nat)) :
    Reading (Expression × Nat) := do
  match (← get).lookup (rule, i) with
  | some known => OptionT.mk (pure known)
  | none =>
    let result ← OptionT.lift r.run
    modify fun m => ((rule, i), result) :: m
    OptionT.mk (pure result)

end Reading

open Reading

/-! ## texts -/

/-- is the text of a token one of bytes? -/
def isBytes (t : Text) : Bool := (t.takeWhile fun c => c != '\'' && c != '"').any fun c => c == 'b' || c == 'B'

/-- is the text of a token one with expressions inside? -/
def hasExpressions (t : Text) : Bool :=
  (t.takeWhile fun c => c != '\'' && c != '"').any fun c => c == 'f' || c == 'F'

/-- the texts that stand one after the other -/
def textsFrom (s : Source) : Nat → Nat → Reading (List Text × Nat)
  | 0, i => pure ([], i)
  | fuel + 1, i => do
    let t ← token s i
    if t.kind = .text then
      let (ts, j) ← textsFrom s fuel (i + 1)
      pure (t.text :: ts, j)
    else pure ([], i)

/-- texts as one expression -/
def joinedTexts (ts : List Text) : Reading Expression :=
  if ts.any isBytes && !ts.all isBytes then refuse "cannot mix bytes and nonbytes literals"
  else if ts.any fun t => isBytes t && t.any fun c => 128 ≤ c.toNat then
    refuse "bytes can only contain ASCII literal characters"
  else pure (if ts.any hasExpressions then .other "f-string expression" else .text)

/-! ## rules -/

/-- the operators that join numbers, from the weakest on -/
def numberOperators : List (List Text) :=
  [["|"], ["^"], ["&"], ["<<", ">>"], ["+", "-"], ["*", "/", "//", "%", "@"]]

/-- the operators that compare -/
def comparisons : List Text := ["==", "!=", "<=", "<", ">=", ">"]

/-- two operands and their operator -/
def joinedBy (o : Text) (left right : Expression) : Expression :=
  if o = ['+'] ∨ o = ['-'] then .sum left right else .other "expression"

/-- what arguments hold: how many stand by their places, and whether some are unpacked into names -/
structure Given where
  plain : Nat := 0
  unpacks : Bool := false

/-- the reason for an assignment where a comparison may be meant -/
def maybeMeant : Text := "invalid syntax. Maybe you meant '==' or ':=' instead of '='?"

mutual


/-- an expression; each step goes down by one -/
def expression (s : Source) : Nat → Nat → Reading (Expression × Nat)
  | 0, _ => failure
  | fuel + 1, i => remembered .expression i do
    let plain : Reading (Expression × Nat) :=
      (do
        let (a, j) ← disjunction s fuel i
        (do
          let j ← word s "if" j
          let (_, j) ← disjunction s fuel j
          let j ← word s "else" j
          let (_, j) ← expression s fuel j
          pure (.other "conditional expression", j)) <|> pure (a, j)) <|> lambda s fuel i
    if s.strict then mistaken s fuel i <|> oldStatement s fuel i <|> plain else plain
termination_by structural n => n

/-- an expression that is unpacked -/
def unpacked (s : Source) : Nat → Nat → Reading Nat
  | 0, _ => failure
  | fuel + 1, i => do
    let j ← word s ['*'] i
    (do pure (← expression s fuel j).2) <|> refuse "Invalid star expression"
termination_by structural n => n

/-- mistakes in an expression: two of them side by side, and a condition without an alternative -/
def mistaken (s : Source) : Nat → Nat → Reading (Expression × Nat)
  | 0, _ => failure
  | fuel + 1, i => do
    let t ← token s i
    let beforeText ← if t.kind = .name && !keywords.contains t.text then do
        let u ← token s (i + 1)
        pure (u.kind == .text)
      else pure false
    let isSoft := t.kind = .name && softKeywords.contains t.text
    let side : Reading (Option Nat) :=
      if beforeText || isSoft then pure none
      else (do
        let (a, j) ← disjunction s fuel i
        let (_, k) ← withoutMistakes s fuel j
        match a with
        | .name n => if n = "print" ∨ n = "exec" then pure (some 0) else pure (some k)
        | _ => pure (some k)) <|> pure none
    match ← side with
    | some k =>
      let level := ((s.tokens[k - 1]?).map (·.level)).getD 0
      if k = 0 || level == 0 then failure
      else refuse "invalid syntax. Perhaps you forgot a comma?"
    | none => do
      let (_, j) ← disjunction s fuel i
      let j ← word s "if" j
      let (_, j) ← disjunction s fuel j
      if ← found (oneOf s ["else", ":"] j) then failure
      else refuse "expected 'else' after 'if' expression"
termination_by structural n => n

/-- an expression in which no mistakes are looked for -/
def withoutMistakes (s : Source) : Nat → Nat → Reading (Expression × Nat)
  | 0, _ => failure
  | fuel + 1, i => do
    let before ← get
    modify fun _ => []
    let result ← OptionT.lift (expression { s with strict := false } fuel i).run
    modify fun _ => before
    OptionT.mk (pure result)
termination_by structural n => n

/-- a name with something after it, which once was a statement -/
def oldStatement (s : Source) : Nat → Nat → Reading (Expression × Nat)
  | 0, _ => failure
  | fuel + 1, i => do
    let (n, j) ← name s i
    if ← found (word s ['('] j) then failure
    let _ ← starExpressions s fuel j
    if n = "print" ∨ n = "exec" then
      refuse ("Missing parentheses in call to '" ++ n ++ "'. Did you mean " ++ n ++ "(...)?")
    else failure
termination_by structural n => n

/-- expressions with commas between them -/
def starExpressions (s : Source) : Nat → Nat → Reading (Expression × Nat)
  | 0, _ => failure
  | fuel + 1, i => do
    let (a, j) ← (do
      let j ← word s ['*'] i
      let (_, j) ← bits s fuel 0 j
      pure (.other "starred", j)) <|> expression s fuel i
    (do
      let j ← word s [','] j
      starExpressions s fuel j <|> pure (.tuple [a], j)) <|> pure (a, j)
termination_by structural n => n

/-- a function without a name -/
def lambda (s : Source) : Nat → Nat → Reading (Expression × Nat)
  | 0, _ => failure
  | fuel + 1, i => do
    let j ← word s "lambda" i
    let j ← parameters s fuel j
    let j ← word s [':'] j
    let (_, j) ← expression s fuel j
    pure (.other "lambda", j)
termination_by structural n => n

/-- the parameters of a function -/
def parameters (s : Source) : Nat → Nat → Reading Nat
  | 0, i => pure i
  | fuel + 1, i => do
    let one : Reading Nat := (do
      let (_, j) ← oneOf s ["**", "*", "/"] i
      (do pure (← name s j).2) <|> pure j) <|> (do
      let (_, j) ← name s i
      (do
        let j ← word s ['='] j
        pure (← expression s fuel j).2) <|> pure j)
    (do
      let j ← one
      (do
        let j ← word s [','] j
        parameters s fuel j) <|> pure j) <|> pure i
termination_by structural n => n

/-- an expression that may be given a name -/
def named (s : Source) : Nat → Nat → Reading (Expression × Nat)
  | 0, _ => failure
  | fuel + 1, i => remembered .named i do
    let plain : Reading (Expression × Nat) := do notBefore s [":="] (← expression s fuel i)
    if s.strict then
      assignment s fuel i <|> misnamed s fuel i <|> plain
    else assignment s fuel i <|> plain
termination_by structural n => n

/-- a name for an expression -/
def assignment (s : Source) : Nat → Nat → Reading (Expression × Nat)
  | 0, _ => failure
  | fuel + 1, i => do
    let (_, j) ← name s i
    let j ← word s ":=" j
    let (_, j) ← expression s fuel j
    pure (.other "named expression", j)
termination_by structural n => n

/-- mistakes in giving names -/
def misnamed (s : Source) : Nat → Nat → Reading (Expression × Nat)
  | 0, _ => failure
  | fuel + 1, i =>
    (do
      let (a, j) ← expression s fuel i
      let j ← word s ":=" j
      let _ ← expression s fuel j
      refuse ("cannot use assignment expressions with " ++ a.word)) <|>
    (do
      let (_, j) ← name s i
      let j ← word s ['='] j
      let _ ← notBefore s ["=", ":="] (← bits s fuel 0 j)
      refuse maybeMeant) <|>
    (do
      if ← found (oneOf s ["True", "None", "False"] i) then failure
      if ← found (tuple s fuel i <|> generator s fuel i) then failure
      let (a, j) ← bits s fuel 0 i
      let j ← word s ['='] j
      let _ ← notBefore s ["=", ":="] (← bits s fuel 0 j)
      refuse ("cannot assign to " ++ a.word ++ " here. Maybe you meant '==' instead of '='?"))
termination_by structural n => n

/-- alternatives -/
def disjunction (s : Source) : Nat → Nat → Reading (Expression × Nat)
  | 0, _ => failure
  | fuel + 1, i => remembered .alternative i do
    let (a, j) ← conjunction s fuel i
    (do
      let j ← word s "or" j
      let (_, j) ← disjunction s fuel j
      pure (.other "expression", j)) <|> pure (a, j)
termination_by structural n => n

/-- what holds together -/
def conjunction (s : Source) : Nat → Nat → Reading (Expression × Nat)
  | 0, _ => failure
  | fuel + 1, i => do
    let (a, j) ← inversion s fuel i
    (do
      let j ← word s "and" j
      let (_, j) ← conjunction s fuel j
      pure (.other "expression", j)) <|> pure (a, j)
termination_by structural n => n

/-- what does not hold -/
def inversion (s : Source) : Nat → Nat → Reading (Expression × Nat)
  | 0, _ => failure
  | fuel + 1, i =>
    (do
      let j ← word s "not" i
      let (_, j) ← inversion s fuel j
      pure (.other "expression", j)) <|> (do
      let (a, j) ← bits s fuel 0 i
      let asksMember ← found (word s "in" j)
      let k ← compared s fuel j
      pure (if k = j then a else .comparison a asksMember, k))
termination_by structural n => n

/-- comparisons after an operand -/
def compared (s : Source) : Nat → Nat → Reading Nat
  | 0, i => pure i
  | fuel + 1, i =>
    (do
      let j ← (do pure (← oneOf s comparisons i).2) <|> (do word s "in" (← word s "not" i))
        <|> word s "in" i <|> (do word s "not" (← word s "is" i)) <|> word s "is" i
      let (_, j) ← bits s fuel 0 j
      compared s fuel j) <|> pure i
termination_by structural n => n

/-- operands joined by operators from a strength on -/
def bits (s : Source) : Nat → Nat → Nat → Reading (Expression × Nat)
  | 0, _, _ => failure
  | fuel + 1, strength, i =>
    let own : Reading (Expression × Nat) :=
      match numberOperators[strength]? with
      | none => factor s fuel i
      | some os => do
        let (a, j) ← bits s fuel (strength + 1) i
        operands s fuel os (strength + 1) a j
    if strength = 0 then remembered .bits i own else own
termination_by structural n => n

/-- operands after another one -/
def operands (s : Source) : Nat → List Text → Nat → Expression → Nat → Reading (Expression × Nat)
  | 0, _, _, a, i => pure (a, i)
  | fuel + 1, os, strength, a, i =>
    (do
      let (o, j) ← oneOf s os i
      let (b, j) ← bits s fuel strength j
      operands s fuel os strength (joinedBy o a b) j) <|> pure (a, i)
termination_by structural n => n

/-- an operand after signs -/
def factor (s : Source) : Nat → Nat → Reading (Expression × Nat)
  | 0, _ => failure
  | fuel + 1, i =>
    (do
      let (o, j) ← oneOf s ["+", "-", "~"] i
      let (a, j) ← factor s fuel j
      pure (if o = ['~'] then .other "expression" else .signed a, j)) <|> (do
      let (a, j) ← (do
        let j ← word s "await" i
        let (_, j) ← primary s fuel j
        pure (.other "await expression", j)) <|> primary s fuel i
      (do
        let j ← word s "**" j
        let (_, j) ← factor s fuel j
        pure (.other "expression", j)) <|> pure (a, j))
termination_by structural n => n

/-- an atom with what is asked of it -/
def primary (s : Source) : Nat → Nat → Reading (Expression × Nat)
  | 0, _ => failure
  | fuel + 1, i => do
    let (a, j) ← atom s fuel i
    trailers s fuel a j
termination_by structural n => n

/-- what is asked of an expression -/
def trailers (s : Source) : Nat → Expression → Nat → Reading (Expression × Nat)
  | 0, a, i => pure (a, i)
  | fuel + 1, a, i =>
    (do
      let j ← word s ['.'] i
      let (_, j) ← name s j
      trailers s fuel (.other "attribute") j) <|> (do
      let (_, j) ← generator s fuel i
      trailers s fuel (.call a false) j) <|> (do
      let j ← word s ['('] i
      let k ← arguments s fuel j <|> pure j
      let l ← word s [')'] k
      trailers s fuel (.call a (k == j)) l) <|> pure (a, i)
termination_by structural n => n

/-- an expression without operators -/
def atom (s : Source) : Nat → Nat → Reading (Expression × Nat)
  | 0, _ => failure
  | fuel + 1, i => do
    let t ← token s i
    match t.kind with
    | .number =>
      let last := t.text.getLast?.getD '0'
      let based := ["0x".toList, "0X".toList].contains (t.text.take 2)
      pure (.number (!based && (last == 'j' || last == 'J')), i + 1)
    | .text => do
      let (ts, j) ← textsFrom s fuel i
      pure (← joinedTexts ts, j)
    | .name =>
      if ["True".toList, "False".toList, "None".toList].contains t.text then pure (.constant t.text, i + 1)
      else if keywords.contains t.text then failure
      else pure (.name t.text, i + 1)
    | .mark =>
      if t.text = "..." then pure (.constant "ellipsis", i + 1)
      else if t.text = ['('] then tuple s fuel i <|> group s fuel i <|> generator s fuel i
      else if t.text = ['\x7b'] then
        dictionary s fuel i <|> collected s fuel i <|> dictionaryMade s fuel i <|> setMade s fuel i
      else failure
    | _ => failure
termination_by structural n => n

/-- an expression that may be unpacked or named -/
def starNamed (s : Source) : Nat → Nat → Reading (Expression × Nat)
  | 0, _ => failure
  | fuel + 1, i =>
    (do
      let j ← word s ['*'] i
      let (_, j) ← bits s fuel 0 j
      pure (.other "starred", j)) <|> named s fuel i
termination_by structural n => n

/-- several of them with commas between them, and perhaps one at the end -/
def starNameds (s : Source) : Nat → Nat → Reading (List Expression × Nat)
  | 0, _ => failure
  | fuel + 1, i => do
    let (a, j) ← starNamed s fuel i
    (do
      let j ← word s [','] j
      (do
        let (as, j) ← starNameds s fuel j
        pure (a :: as, j)) <|> pure ([a], j)) <|> pure ([a], j)
termination_by structural n => n

/-- expressions in round brackets -/
def tuple (s : Source) : Nat → Nat → Reading (Expression × Nat)
  | 0, _ => failure
  | fuel + 1, i => do
    let j ← word s ['('] i
    let (as, j) ← (do
      let (a, k) ← starNamed s fuel j
      let k ← word s [','] k
      (do
        let (as, k) ← starNameds s fuel k
        pure (a :: as, k)) <|> pure ([a], k)) <|> pure ([], j)
    let j ← word s [')'] j
    pure (.tuple as, j)
termination_by structural n => n

/-- one expression in round brackets -/
def group (s : Source) : Nat → Nat → Reading (Expression × Nat)
  | 0, _ => failure
  | fuel + 1, i =>
    (do
      let j ← word s ['('] i
      let (a, j) ← (do
        let j ← word s "yield" j
        (do
          let j ← word s "from" j
          let (_, j) ← expression s fuel j
          pure (.other "yield expression", j)) <|> (do
          let (_, j) ← starExpressions s fuel j
          pure (.other "yield expression", j)) <|> pure (.other "yield expression", j))
        <|> named s fuel j
      let j ← word s [')'] j
      pure (a, j)) <|> (do
      if !s.strict then failure
      let j ← word s ['('] i
      (do
        let k ← unpacked s fuel j
        let _ ← word s [')'] k
        refuse "cannot use starred expression here") <|> (do
        let k ← word s "**" j
        let (_, k) ← expression s fuel k
        let _ ← word s [')'] k
        refuse "cannot use double starred expression here"))
termination_by structural n => n

/-- an expression that is made again and again, in round brackets -/
def generator (s : Source) : Nat → Nat → Reading (Expression × Nat)
  | 0, _ => failure
  | fuel + 1, i =>
    (do
      let j ← word s ['('] i
      let (_, j) ← assignment s fuel j <|> (do notBefore s [":="] (← expression s fuel j))
      let j ← clauses s fuel j
      let j ← word s [')'] j
      pure (.other "generator expression", j)) <|> unpackedClauses s fuel i
termination_by structural n => n

/-- mistakes in what is made again and again: something that is unpacked, or several expressions -/
def unpackedClauses (s : Source) : Nat → Nat → Reading (Expression × Nat)
  | 0, _ => failure
  | fuel + 1, i =>
    if !s.strict then failure
    else (do
      let (_, j) ← oneOf s ["(", "\x7b"] i
      let j ← unpacked s fuel j
      let _ ← clauses s fuel j
      refuse "iterable unpacking cannot be used in comprehension") <|> (do
      let j ← word s ['\x7b'] i
      let (_, j) ← starNamed s fuel j
      let j ← word s [','] j
      let (_, j) ← starNameds s fuel j
      let _ ← clauses s fuel j
      refuse "did you forget parentheses around the comprehension target?") <|> (do
      let j ← word s ['\x7b'] i
      let (_, j) ← starNamed s fuel j
      let j ← word s [','] j
      let _ ← clauses s fuel j
      refuse "did you forget parentheses around the comprehension target?")
termination_by structural n => n

/-- what an expression is made of again and again -/
def clauses (s : Source) : Nat → Nat → Reading Nat
  | 0, _ => failure
  | fuel + 1, i => do
    let start : Reading Nat := do
      let j ← word s "async" i <|> pure i
      let j ← word s "for" j
      let j ← targets s fuel j
      word s "in" j
    let known : Option Nat ← (do pure (some (← start))) <|> pure none
    match known with
    | none => mistargeted s fuel i
    | some j =>
      let (_, j) ← disjunction s fuel j
      let j ← conditions s fuel j
      clauses s fuel j <|> pure j
termination_by structural n => n

/-- conditions in clauses -/
def conditions (s : Source) : Nat → Nat → Reading Nat
  | 0, i => pure i
  | fuel + 1, i =>
    (do
      let j ← word s "if" i
      let (_, j) ← disjunction s fuel j
      conditions s fuel j) <|> pure i
termination_by structural n => n

/-- the targets of clauses -/
def targets (s : Source) : Nat → Nat → Reading Nat
  | 0, _ => failure
  | fuel + 1, i => do
    let j ← word s ['*'] i <|> pure i
    let (a, j) ← primary s fuel j
    if !a.isTarget then failure
    (do
      let j ← word s [','] j
      targets s fuel j <|> pure j) <|> pure j
termination_by structural n => n

/-- mistakes in the targets of clauses -/
def mistargeted (s : Source) : Nat → Nat → Reading Nat
  | 0, _ => failure
  | fuel + 1, i => do
    if !s.strict then failure
    let j ← word s "async" i <|> pure i
    let j ← word s "for" j
    let (a, _) ← starExpressions s fuel j
    match a.badTarget? with
    | some bad => refuse ("cannot assign to " ++ bad.word)
    | none => failure
termination_by structural n => n

/-- expressions in curly brackets -/
def collected (s : Source) : Nat → Nat → Reading (Expression × Nat)
  | 0, _ => failure
  | fuel + 1, i => do
    let j ← word s ['\x7b'] i
    let (as, j) ← starNameds s fuel j
    let j ← word s ['\x7d'] j
    pure (.set as, j)
termination_by structural n => n

/-- an expression that is made again and again, in curly brackets -/
def setMade (s : Source) : Nat → Nat → Reading (Expression × Nat)
  | 0, _ => failure
  | fuel + 1, i =>
    (do
      let j ← word s ['\x7b'] i
      let (_, j) ← named s fuel j
      let j ← clauses s fuel j
      let j ← word s ['\x7d'] j
      pure (.other "set comprehension", j)) <|> unpackedClauses s fuel i
termination_by structural n => n

/-- a key and its value, or something that is unpacked -/
def pair (s : Source) : Nat → Nat → Reading ((Option Expression × Expression) × Nat)
  | 0, _ => failure
  | fuel + 1, i =>
    (do
      let j ← word s "**" i
      let (a, j) ← bits s fuel 0 j
      pure ((none, a), j)) <|> keyed s fuel i
termination_by structural n => n

/-- a key and its value -/
def keyed (s : Source) : Nat → Nat → Reading ((Option Expression × Expression) × Nat)
  | 0, _ => failure
  | fuel + 1, i => do
    let (k, j) ← expression s fuel i
    let j ← word s [':'] j
    let (v, j) ← expression s fuel j
    pure ((some k, v), j)
termination_by structural n => n

/-- keys and values with commas between them -/
def pairs (s : Source) : Nat → Nat → Reading (List (Option Expression × Expression) × Nat)
  | 0, _ => failure
  | fuel + 1, i => do
    let (p, j) ← pair s fuel i
    (do
      let k ← word s [','] j
      let (ps, k) ← pairs s fuel k
      pure (p :: ps, k)) <|> pure ([p], j)
termination_by structural n => n

/-- keys and values in curly brackets -/
def dictionary (s : Source) : Nat → Nat → Reading (Expression × Nat)
  | 0, _ => failure
  | fuel + 1, i =>
    (do
      let j ← word s ['\x7b'] i
      let (ps, j) ← (do
        let (ps, k) ← pairs s fuel j
        let k ← word s [','] k <|> pure k
        pure (ps, k)) <|> pure ([], j)
      let j ← word s ['\x7d'] j
      pure (.dictionary (ps.map (·.1)) (ps.map (·.2)), j)) <|> (do
      if !s.strict then failure
      let j ← word s ['\x7b'] i
      mispaired s fuel j)
termination_by structural n => n

/-- mistakes in keys and values -/
def mispaired (s : Source) : Nat → Nat → Reading (Expression × Nat)
  | 0, _ => failure
  | fuel + 1, i =>
    (do
      let (_, j) ← pairs s fuel i
      let j ← word s [','] j
      (do
        let (_, k) ← expression s fuel j
        if ← found (word s [':'] k) then failure
        else refuse "':' expected after dictionary key") <|> misvalued s fuel j) <|> misvalued s fuel i
termination_by structural n => n

/-- a key without a value -/
def misvalued (s : Source) : Nat → Nat → Reading (Expression × Nat)
  | 0, _ => failure
  | fuel + 1, i => do
    let (_, j) ← expression s fuel i
    let j ← word s [':'] j
    (do
      let k ← word s ['*'] j
      let _ ← bits s fuel 0 k
      refuse "cannot use a starred expression in a dictionary value") <|> (do
      let _ ← oneOf s ["\x7d", ","] j
      refuse "expression expected after dictionary key and ':'")
termination_by structural n => n

/-- keys and values that are made again and again -/
def dictionaryMade (s : Source) : Nat → Nat → Reading (Expression × Nat)
  | 0, _ => failure
  | fuel + 1, i =>
    (do
      let j ← word s ['\x7b'] i
      let (_, j) ← keyed s fuel j
      let j ← clauses s fuel j
      let j ← word s ['\x7d'] j
      pure (.other "dict comprehension", j)) <|> (do
      if !s.strict then failure
      let j ← word s ['\x7b'] i
      let j ← word s "**" j
      let (_, j) ← bits s fuel 0 j
      let j ← clauses s fuel j
      let _ ← word s ['\x7d'] j
      refuse "dict unpacking cannot be used in dict comprehension")
termination_by structural n => n

/-- the arguments of a call -/
def arguments (s : Source) : Nat → Nat → Reading Nat
  | 0, _ => failure
  | fuel + 1, i =>
    (do
      let (_, j) ← given s fuel i
      let j ← word s [','] j <|> pure j
      let _ ← word s [')'] j
      pure j) <|> (do
      if !s.strict then failure
      misgiven s fuel i)
termination_by structural n => n

/-- mistakes in arguments -/
def misgiven (s : Source) : Nat → Nat → Reading Nat
  | 0, _ => failure
  | fuel + 1, i =>
    let parenthesized : Text := "Generator expression must be parenthesized"
    (do
      let (_, j) ← given s fuel i
      let j ← word s [','] j
      let _ ← word s ['*'] j
      refuse "iterable argument unpacking follows keyword argument unpacking") <|> (do
      let (_, j) ← expression s fuel i
      let j ← clauses s fuel j
      let j ← word s [','] j
      let _ ← (do pure (← given s fuel j).2) <|> (do clauses s fuel (← expression s fuel j).2) <|> pure j
      refuse parenthesized) <|> (do
      let (_, j) ← name s i
      let j ← word s ['='] j
      let _ ← clauses s fuel (← expression s fuel j).2
      refuse maybeMeant) <|> (do
      let (g, j) ← given s fuel i
      let _ ← clauses s fuel j
      if 1 < g.plain then refuse parenthesized else failure) <|> (do
      let (_, j) ← given s fuel i
      let j ← word s [','] j
      let _ ← clauses s fuel (← expression s fuel j).2
      refuse parenthesized) <|> (do
      let (g, j) ← given s fuel i
      let j ← word s [','] j
      let _ ← given s fuel j
      refuse ("positional argument follows keyword argument" ++
        (if g.unpacks then " unpacking".toList else [])))
termination_by structural n => n

/-- arguments by their places, and after them arguments by their names -/
def given (s : Source) : Nat → Nat → Reading (Given × Nat)
  | 0, _ => failure
  | fuel + 1, i =>
    (do
      let (n, j) ← placed s fuel i
      (do
        let k ← word s [','] j
        let (g, k) ← byNames s fuel false k
        pure ({ g with plain := g.plain + n }, k)) <|> pure ({ plain := n }, j)) <|> byNames s fuel false i
termination_by structural n => n

/-- arguments by their places -/
def placed (s : Source) : Nat → Nat → Reading (Nat × Nat)
  | 0, _ => failure
  | fuel + 1, i => do
    let j ← unpacked s fuel i <|> (do
      let r ← assignment s fuel i <|> (do notBefore s [":="] (← expression s fuel i))
      pure (← notBefore s ["="] r).2)
    (do
      let k ← word s [','] j
      let (n, k) ← placed s fuel k
      pure (n + 1, k)) <|> pure (1, j)
termination_by structural n => n

/-- arguments by their names; once some are unpacked into names, none is unpacked into places -/
def byNames (s : Source) : Nat → Bool → Nat → Reading (Given × Nat)
  | 0, _, _ => failure
  | fuel + 1, second, i => do
    let one : Reading (Given × Nat) :=
      (do
        if !s.strict then failure
        misnamedArgument s fuel i) <|> (do
        let (_, j) ← name s i
        let j ← word s ['='] j
        pure ({}, (← expression s fuel j).2)) <|> (do
        if second then failure
        pure ({ plain := 1 }, ← unpacked s fuel i)) <|> (do
        let j ← word s "**" i
        pure ({ unpacks := true }, (← expression s fuel j).2))
    let (g, j) ← one
    (do
      let k ← word s [','] j
      let (h, k) ← byNames s fuel (second || g.unpacks) k
      pure ({ plain := g.plain + h.plain, unpacks := g.unpacks || h.unpacks }, k)) <|> pure (g, j)
termination_by structural n => n

/-- mistakes in the names of arguments -/
def misnamedArgument (s : Source) : Nat → Nat → Reading (Given × Nat)
  | 0, _ => failure
  | fuel + 1, i =>
    (do
      let (w, j) ← oneOf s ["True", "False", "None"] i
      let _ ← word s ['='] j
      refuse ("cannot assign to " ++ w)) <|> (do
      let (_, j) ← name s i
      let j ← word s ['='] j
      let _ ← clauses s fuel (← expression s fuel j).2
      refuse maybeMeant) <|> (do
      if ← found (do word s ['='] (← name s i).2) then failure
      let (_, j) ← expression s fuel i
      let _ ← word s ['='] j
      refuse "expression cannot contain assignment, perhaps you meant \"==\"?")
termination_by structural n => n

end

/-! ## all of a text -/

/-- the ends of lines, and the end -/
def atEnd (s : Source) : Nat → Nat → Reading Unit
  | 0, _ => failure
  | fuel + 1, i => do
    let t ← token s i
    if t.kind = .finish then pure ()
    else if t.kind = .lineEnd then atEnd s fuel (i + 1)
    else failure

/-- more expressions after a comma -/
def moreExpressions (s : Source) (fuel : Nat) : Nat → Nat → Reading (List Expression × Nat)
  | 0, i => pure ([], i)
  | n + 1, i =>
    (do
      let j ← word s [','] i
      let (a, j) ← expression s fuel j
      let (as, j) ← moreExpressions s fuel n j
      pure (a :: as, j)) <|> pure ([], i)

/-- expressions with commas between them, to the end -/
def wholeText (s : Source) (fuel : Nat) : Reading Expression := do
  let (a, i) ← expression s fuel 0
  let (as, i) ← moreExpressions s fuel fuel i
  let (comma, i) ← (do pure (true, ← word s [','] i)) <|> pure (false, i)
  atEnd s fuel i
  pure (if comma || !as.isEmpty then .tuple (a :: as) else a)

/-- the expression of a text, or why it is none -/
def expressionOf (t : Text) : Except Text Expression := do
  let tokens ← tokensOf t
  let fuel := 40 * tokens.length + 40
  let source : Source := ⟨tokens.toArray, false⟩
  match ← (wholeText source fuel).run.run' ([] : Memory) with
  | some e => pure e
  | none => match ← (wholeText { source with strict := true } fuel).run.run' ([] : Memory) with
    | some e => pure e
    | none => throw "invalid syntax".toList

end DatabaseTypes.Markup
