import DatabaseTypes.Filter.Records.Likeness

/-!
# Reading scripts about records

* `Filter.Records.Reader`       what reads words one after the other
* `Filter.Records.Script.of`    the script of a text

Each function has a bound on its depth, and a script needs no more than it has words.
-/

namespace DatabaseTypes.Filter.Records

/-- what reads words one after the other, and may find that they are wrong -/
abbrev Reader := StateT (List Lexeme) (Except ScriptFault)

namespace Reader

/-! ## words -/

/-- the next word, which stays -/
def ahead : Reader Lexeme := do pure ((← get).headD ⟨.finish, 1, 0⟩)

/-- the word after the next one, which stays -/
def further (n : Nat) : Reader Token := do pure (((← get)[n]?).getD ⟨.finish, 1, 0⟩).token

/-- the next word -/
def take : Reader Token := do
  let l ← ahead
  modify (·.drop 1)
  pure l.token

/-- the end of reading with what is wrong with the next word -/
def wrong {α : Type} : Reader α := do
  let l ← ahead
  let closes : Bool := 0 < l.brackets && [.feed, .sign [';'], .sign ['\x7d']].contains l.token
  if l.token = .finish then throw (.single l.line "missing \x7d near end of file")
  else if closes then throw (.single l.line ("missing ) near " ++ l.token.shown))
  else throw (.single l.line ("syntax error at or near " ++ l.token.shown))

/-- the end of reading with a message -/
def refuse {α : Type} (message : Text) : Reader α := do throw (.single (← ahead).line message)

/-- is the next word a sign? -/
def isSign (t : Text) : Reader Bool := do pure ((← ahead).token == .sign t)

/-- a sign is taken, if it is the next word -/
def takes (t : Text) : Reader Bool := do
  if ← isSign t then
    let _ ← take
    pure true
  else pure false

/-- a keyword is taken, if it is the next word -/
def takesWord (t : Text) : Reader Bool := do
  if (← ahead).token == .keyword t then
    let _ ← take
    pure true
  else pure false

/-- a sign that must be there -/
def must (t : Text) : Reader Unit := do
  if !(← takes t) then wrong

/-- words without those at the front that end lines -/
def withoutFeeds (ls : List Lexeme) : List Lexeme := ls.dropWhile (·.token == .feed)

/-- ends of lines are passed over -/
def passFeeds : Reader Unit := modify withoutFeeds

/-- ends of lines and semicolons are passed over -/
def passEnds : Reader Unit :=
  modify (·.dropWhile fun l => l.token == .feed || l.token == .sign [';'])

/-- a name that must be there -/
def name : Reader Text := do
  match (← ahead).token with
  | .name t =>
    let _ ← take
    pure t
  | _ => wrong

/-- the pattern of a text -/
def pattern (t : Text) : Reader Pattern := do
  match patternOf t with
  | .ok p => pure p
  | .error f => refuse (f.message t)

end Reader

open Reader

/-! ## expressions -/

/-- where an expression stands: among what is printed, an arrow or a bar is for the target -/
structure Stance where
  printed : Bool := false

/-- the operators between a target and its new value -/
def updateSigns : List (Text × Operator) := [("+=", .add), ("-=", .subtract), ("*=", .multiply),
  ("/=", .divide), ("%=", .remainder), ("^=", .power)]

/-- the signs of relations -/
def relationSigns : List (Text × Relation) := [("<", .below), ("<=", .atMost), ("==", .equal), ("!=", .unequal),
  (">", .above), (">=", .atLeast)]

/-- may a word begin what stands beside another value? -/
def startsValue : Token → Bool
  | .number _ _ | .text _ | .pattern _ | .name _ | .call _ | .own _ => true
  | .sign t => t = ['$'] || t = ['!'] || t = ['('] || t = ['-'] || t = ['+'] || t = ['+', '+'] || t = ['-', '-']
  | _ => false

/-- may a word begin what is joined to the value before it? -/
def startsJoined : Token → Bool
  | .sign ['-'] | .sign ['+'] => false
  | t => startsValue t

/-- a text that is written where a pattern is meant, as one -/
def asPattern : Expression → Reader Expression
  | .text t => do pure (.pattern (← pattern t))
  | e => pure e

/-- how many arguments the functions take that there are without a script: as few, and as many at most -/
def ownCounts : List (Text × Nat × Nat) := [("length", 0, 1), ("index", 2, 2), ("substr", 2, 3), ("split", 2, 3),
  ("match", 2, 2), ("sin", 1, 1), ("cos", 1, 1), ("atan2", 2, 2), ("exp", 1, 1), ("log", 1, 1),
  ("sqrt", 1, 1), ("int", 1, 1), ("rand", 0, 0), ("srand", 0, 1), ("system", 1, 1), ("close", 1, 1),
  ("fflush", 0, 1), ("tolower", 1, 1), ("toupper", 1, 1), ("sprintf", 1, 1000)]

/-- do so many arguments go with a function? -/
def countFits (name : Text) (n : Nat) : Bool :=
  match ownCounts.lookup name with
  | some (least, most) => least ≤ n && n ≤ most
  | none => true

mutual

/-- an expression -/
def expression : Nat → Stance → Reader Expression
  | 0, _ => wrong
  | fuel + 1, s => do
    let test ← disjunction fuel s
    if ← takes ['?'] then
      let yes ← expression fuel s
      must [':']
      let no ← expression fuel s
      pure (.choice test yes no)
    else pure test

/-- expressions of which one must be true -/
def disjunction : Nat → Stance → Reader Expression
  | 0, _ => wrong
  | fuel + 1, s => do moreDisjuncts fuel s (← conjunction fuel s)

/-- more expressions of which one must be true -/
def moreDisjuncts : Nat → Stance → Expression → Reader Expression
  | 0, _, _ => wrong
  | fuel + 1, s, a => do
    if ← takes ['|', '|'] then
      passFeeds
      moreDisjuncts fuel s (.either a (← conjunction fuel s))
    else pure a

/-- expressions that must all be true -/
def conjunction : Nat → Stance → Reader Expression
  | 0, _ => wrong
  | fuel + 1, s => do moreConjuncts fuel s (← membership fuel s)

/-- more expressions that must all be true -/
def moreConjuncts : Nat → Stance → Expression → Reader Expression
  | 0, _, _ => wrong
  | fuel + 1, s, a => do
    if ← takes ['&', '&'] then
      passFeeds
      moreConjuncts fuel s (.both a (← membership fuel s))
    else pure a

/-- what may be in an array -/
def membership : Nat → Stance → Reader Expression
  | 0, _ => wrong
  | fuel + 1, s => do moreMembers fuel (← likeness fuel s)

/-- arrays in which something may be -/
def moreMembers : Nat → Expression → Reader Expression
  | 0, _ => wrong
  | fuel + 1, a => do
    if ← takesWord "in" then
      let array ← name
      moreMembers fuel (.within (match a with
        | .group es => es
        | a => [a]) array)
    else match a with
      | .group (_ :: _ :: _) => wrong
      | a => pure a

/-- what may be like a pattern -/
def likeness : Nat → Stance → Reader Expression
  | 0, _ => wrong
  | fuel + 1, s => do moreLikenesses fuel s (← relation fuel s)

/-- patterns that something may be like -/
def moreLikenesses : Nat → Stance → Expression → Reader Expression
  | 0, _, _ => wrong
  | fuel + 1, s, a => do
    if ← takes ['~'] then
      moreLikenesses fuel s (.matching false a (← asPattern (← relation fuel s)))
    else if ← takes ['!', '~'] then
      moreLikenesses fuel s (.matching true a (← asPattern (← relation fuel s)))
    else pure a

/-- values that are compared -/
def relation : Nat → Stance → Reader Expression
  | 0, _ => wrong
  | fuel + 1, s => do moreRelations fuel s (← joined fuel s)

/-- more values that are compared -/
def moreRelations : Nat → Stance → Expression → Reader Expression
  | 0, _, _ => wrong
  | fuel + 1, s, a => do
    match (← ahead).token with
    | .sign t => match relationSigns.lookup t with
      | some r =>
        if s.printed && r == .above then pure a
        else if s.printed && r == .atLeast then refuse "syntax error at or near ="
        else
          let _ ← take
          moreRelations fuel s (.relation r a (← joined fuel s))
      | none => pure a
    | _ => pure a

/-- values that are joined, or a target with its new value -/
def joined : Nat → Stance → Reader Expression
  | 0, _ => wrong
  | fuel + 1, s => do
    let a ← sum fuel s
    match a.isTarget, (← ahead).token with
    | true, .sign ['='] =>
      let _ ← take
      passFeeds
      pure (.assign a (← expression fuel s))
    | true, .sign t => match updateSigns.lookup t with
      | some o =>
        let _ ← take
        pure (.update o a (← expression fuel s))
      | none => moreJoined fuel s a
    | _, _ => moreJoined fuel s a

/-- more values that are joined -/
def moreJoined : Nat → Stance → Expression → Reader Expression
  | 0, _, _ => wrong
  | fuel + 1, s, a => do
    if startsJoined (← ahead).token then moreJoined fuel s (.joined a (← sum fuel s)) else pure a

/-- sums and differences -/
def sum : Nat → Stance → Reader Expression
  | 0, _ => wrong
  | fuel + 1, s => do moreSums fuel s (← product fuel s)

/-- more sums and differences -/
def moreSums : Nat → Stance → Expression → Reader Expression
  | 0, _, _ => wrong
  | fuel + 1, s, a => do
    if ← takes ['+'] then moreSums fuel s (.arithmetic .add a (← product fuel s))
    else if ← takes ['-'] then moreSums fuel s (.arithmetic .subtract a (← product fuel s))
    else pure a

/-- products, quotients and remainders -/
def product : Nat → Stance → Reader Expression
  | 0, _ => wrong
  | fuel + 1, s => do moreProducts fuel s (← signed fuel s)

/-- more products, quotients and remainders -/
def moreProducts : Nat → Stance → Expression → Reader Expression
  | 0, _, _ => wrong
  | fuel + 1, s, a => do
    if ← takes ['*'] then moreProducts fuel s (.arithmetic .multiply a (← signed fuel s))
    else if ← takes ['/'] then moreProducts fuel s (.arithmetic .divide a (← signed fuel s))
    else if ← takes ['%'] then moreProducts fuel s (.arithmetic .remainder a (← signed fuel s))
    else pure a

/-- a value with signs in front -/
def signed : Nat → Stance → Reader Expression
  | 0, _ => wrong
  | fuel + 1, s => do
    if ← takes ['!'] then pure (.not (← signed fuel s))
    else if ← takes ['-'] then pure (.signed true (← signed fuel s))
    else if ← takes ['+'] then pure (.signed false (← signed fuel s))
    else moreCommands fuel s (← power fuel s)

/-- commands whose output is read -/
def moreCommands : Nat → Stance → Expression → Reader Expression
  | 0, _, _ => wrong
  | fuel + 1, s, a => do
    if !s.printed && (← isSign ['|']) && (← further 1) == .keyword "getline" then
      let _ ← take
      let _ ← take
      let target ← maybeTarget fuel s
      moreCommands fuel s (.nextOfCommand a target)
    else pure a

/-- a power; the exponent may have a sign -/
def power : Nat → Stance → Reader Expression
  | 0, _ => wrong
  | fuel + 1, s => do
    let a ← stepped fuel s
    if ← takes ['^'] then
      if ← takes ['-'] then pure (.arithmetic .power a (.signed true (← power fuel s)))
      else if ← takes ['+'] then pure (.arithmetic .power a (.signed false (← power fuel s)))
      else if ← takes ['!'] then pure (.arithmetic .power a (.not (← power fuel s)))
      else pure (.arithmetic .power a (← power fuel s))
    else pure a

/-- a value that may be changed by one -/
def stepped : Nat → Stance → Reader Expression
  | 0, _ => wrong
  | fuel + 1, s => do
    if ← takes ['+', '+'] then pure (.step true true (← target fuel s))
    else if ← takes ['-', '-'] then pure (.step true false (← target fuel s))
    else
      let a ← primary fuel s
      if !a.isTarget then pure a
      else if ← takes ['+', '+'] then pure (.step false true a)
      else if ← takes ['-', '-'] then pure (.step false false a)
      else pure a

/-- something that can be given a value -/
def target : Nat → Stance → Reader Expression
  | 0, _ => wrong
  | fuel + 1, s => do
    match (← ahead).token with
    | .name _ | .sign ['$'] =>
      let a ← primary fuel s
      if a.isTarget then pure a else wrong
    | _ => wrong

/-- something that can be given a value, if it is there -/
def maybeTarget : Nat → Stance → Reader (Option Expression)
  | 0, _ => wrong
  | fuel + 1, s => do
    match (← ahead).token with
    | .name _ => pure (some (← target fuel s))
    | .sign ['$'] => pure (some (← target fuel s))
    | _ => pure none

/-- a value that is not made of others, but for brackets -/
def primary : Nat → Stance → Reader Expression
  | 0, _ => wrong
  | fuel + 1, s => do
    match (← ahead).token with
    | .number x _ =>
      let _ ← take
      pure (.number x)
    | .text t =>
      let _ ← take
      pure (.text t)
    | .pattern t =>
      let p ← pattern t
      let _ ← take
      pure (.pattern p)
    | .name t =>
      let _ ← take
      if ← takes ['['] then
        let es ← expressions fuel {}
        must [']']
        pure (.element t es)
      else pure (.variable t)
    | .call t =>
      let _ ← take
      let _ ← take
      pure (.call t (← arguments fuel))
    | .own t =>
      let _ ← take
      if t = "sub" ∨ t = "gsub" then
        must ['(']
        let p ← asPattern (← expression fuel {})
        must [',']
        let es ← expressions fuel {}
        must [')']
        pure (.own t (p :: es))
      else if ← takes ['('] then
        let es ← arguments fuel
        if !countFits t es.length then refuse ("wrong number of arguments in call to " ++ t)
        match es with
        | [e, p] => if t = "match" then pure (.own t [e, ← asPattern p]) else pure (.own t es)
        | [e, array, .text p] =>
          if t = "split" && 2 ≤ p.length then pure (.own t [e, array, .pattern (← pattern p)])
          else pure (.own t es)
        | es => pure (.own t es)
      else if t = "length" then pure (.own t [])
      else wrong
    | .sign ['$'] =>
      let _ ← take
      if ← takes ['+', '+'] then pure (.field (.step true true (← target fuel s)))
      else if ← takes ['-', '-'] then pure (.field (.step true false (← target fuel s)))
      else if ← takes ['-'] then pure (.field (.signed true (← primary fuel s)))
      else
        let e ← primary fuel s
        if !e.isFieldTarget then pure (.field e)
        else if ← takes ['+', '+'] then pure (.field (.step false true e))
        else if ← takes ['-', '-'] then pure (.field (.step false false e))
        else pure (.field e)
    | .sign ['('] =>
      let _ ← take
      let es ← expressions fuel {}
      must [')']
      if 2 ≤ es.length && (← further 0) != .keyword "in" then wrong
      pure (.group es)
    | .sign ['-'] =>
      let _ ← take
      pure (.signed true (← primary fuel s))
    | .keyword t =>
      if t != "getline".toList then wrong
      else
        let _ ← take
        let target ← maybeTarget fuel s
        if ← takes ['<'] then
          let file ← primary fuel s
          pure (.nextOfFile file target)
        else pure (.nextRecord target)
    | _ => wrong

/-- the arguments of a function up to the closing bracket -/
def arguments : Nat → Reader (List Expression)
  | 0 => wrong
  | fuel + 1 => do
    if ← takes [')'] then pure []
    else
      let es ← expressions fuel {}
      must [')']
      pure es

/-- expressions with commas between them -/
def expressions : Nat → Stance → Reader (List Expression)
  | 0, _ => wrong
  | fuel + 1, s => do
    let e ← expression fuel s
    if ← takes [','] then
      passFeeds
      pure (e :: (← expressions fuel s))
    else pure [e]

end

/-! ## statements -/

/-- where a statement stands: in a loop, in a function, in what is done for records -/
structure Whereabouts where
  inLoop : Bool := false
  inFunction : Bool := false
  inRule : Bool := false

/-- the end of a statement: a semicolon, the end of a line, or a brace that follows -/
def statementEnd : Reader Unit := do
  match (← ahead).token with
  | .sign [';'] | .feed =>
    let _ ← take
    passFeeds
  | .sign ['\x7d'] => pure ()
  | .finish => pure ()
  | _ => wrong

/-- the target of what is printed, if there is one -/
def sink (fuel : Nat) : Reader (Option (Sink × Expression)) := do
  if ← takes ['>'] then pure (some (.file, ← expression fuel {}))
  else if ← takes ['>', '>'] then pure (some (.fileEnd, ← expression fuel {}))
  else if ← takes ['|'] then pure (some (.command, ← expression fuel {}))
  else pure none

/-- does a word end what is printed? -/
def endsPrinted : Token → Bool
  | .feed | .finish => true
  | .sign t => t = [';'] || t = ['\x7d'] || t = ['>'] || t = ['>', '>'] || t = ['|']
  | _ => false

/-- a statement without its end: what is printed, an array that is emptied, or an expression -/
def simpleStatement (fuel : Nat) : Reader Statement := do
  let printed (formatted : Bool) : Reader Statement := do
    let _ ← take
    let es ← if endsPrinted (← ahead).token then pure [] else do
      let first ← get
      match (← ahead).token with
      | .sign ['('] =>
        let _ ← take
        let es ← expressions fuel {}
        must [')']
        if endsPrinted (← ahead).token then pure es
        else
          set first
          expressions fuel { printed := true }
      | _ => expressions fuel { printed := true }
    if formatted && es.isEmpty then refuse "no arguments in call to printf"
    pure (.print formatted es (← sink fuel))
  match (← ahead).token with
  | .keyword t =>
    if t = "print" then printed false
    else if t = "printf" then printed true
    else if t = "delete" then
      let _ ← take
      let array ← name
      if ← takes ['['] then
        let es ← expressions fuel {}
        must [']']
        pure (.erase array (some es))
      else pure (.erase array none)
    else pure (.value (← expression fuel {}))
  | _ => pure (.value (← expression fuel {}))

/-- is a loop over the keys of an array next: a name, the word, a name and a bracket? -/
def eachAhead? : Reader (Option (Text × Text)) := do
  match (← further 0), (← further 1), (← further 2), (← further 3) with
  | .name k, .keyword t, .name array, .sign [')'] =>
    pure (if t = "in" then some (k, array) else none)
  | _, _, _, _ => pure none

mutual

/-- a statement with its end -/
def statement : Nat → Whereabouts → Reader Statement
  | 0, _ => wrong
  | fuel + 1, w => do
    let body : Reader Statement := statement fuel { w with inLoop := true }
    let ended (s : Statement) : Reader Statement := do
      statementEnd
      pure s
    let optional : Reader (Option Expression) := do
      match (← ahead).token with
      | .sign [';'] | .sign ['\x7d'] | .feed | .finish => pure none
      | _ => pure (some (← expression fuel {}))
    match (← ahead).token with
    | .sign ['\x7b'] =>
      let b ← block fuel w
      passFeeds
      pure b
    | .sign [';'] =>
      let _ ← take
      passFeeds
      pure (.block [])
    | .keyword t =>
      if t = "if" then
        let _ ← take
        must ['(']
        let test ← expression fuel {}
        must [')']
        passFeeds
        let yes ← statement fuel w
        if ← takesWord "else" then
          passFeeds
          pure (.conditional test yes (some (← statement fuel w)))
        else pure (.conditional test yes none)
      else if t = "while" then
        let _ ← take
        must ['(']
        let test ← expression fuel {}
        must [')']
        if ← takes [';'] then
          passFeeds
          pure (.loop test (.block []))
        else
          passFeeds
          pure (.loop test (← body))
      else if t = "do" then
        let _ ← take
        passFeeds
        let repeated ← body
        passEnds
        if !(← takesWord "while") then wrong
        must ['(']
        let test ← expression fuel {}
        must [')']
        ended (.loopAfter repeated test)
      else if t = "for" then
        let _ ← take
        must ['(']
        match ← eachAhead? with
        | some (k, array) =>
          modify (·.drop 4)
          passFeeds
          pure (.each k array (← body))
        | none =>
          let first ← if ← isSign [';'] then pure none else pure (some (← simpleStatement fuel))
          must [';']
          passFeeds
          let test ← if ← isSign [';'] then pure none else pure (some (← expression fuel {}))
          must [';']
          passFeeds
          let step ← if ← isSign [')'] then pure none else pure (some (← simpleStatement fuel))
          must [')']
          if ← takes [';'] then
            passFeeds
            pure (.counted first test step (.block []))
          else
            passFeeds
            pure (.counted first test step (← body))
      else if t = "break" then
        if !w.inLoop then refuse "break statement outside of loop"
        let _ ← take
        ended .stop
      else if t = "continue" then
        if !w.inLoop then refuse "continue statement outside of loop"
        let _ ← take
        ended .goOn
      else if t = "next" then
        if !w.inRule then refuse "improper use of next"
        let _ ← take
        ended .next
      else if t = "nextfile" then
        if !w.inRule then refuse "improper use of nextfile"
        let _ ← take
        ended .nextFile
      else if t = "exit" then
        let _ ← take
        ended (.leave (← optional))
      else if t = "return" then
        if !w.inFunction then refuse "return outside function body"
        let _ ← take
        ended (.giveBack (← optional))
      else ended (← simpleStatement fuel)
    | _ => ended (← simpleStatement fuel)

/-- statements between braces -/
def block : Nat → Whereabouts → Reader Statement
  | 0, _ => wrong
  | fuel + 1, w => do
    must ['\x7b']
    passEnds
    let ss ← statements fuel w
    must ['\x7d']
    pure (.block ss)

/-- statements up to a closing brace -/
def statements : Nat → Whereabouts → Reader (List Statement)
  | 0, _ => wrong
  | fuel + 1, w => do
    match (← ahead).token with
    | .sign ['\x7d'] => pure []
    | .finish => wrong
    | _ =>
      let s ← statement fuel w
      passEnds
      pure (s :: (← statements fuel w))

end

/-! ## scripts -/

/-- the parameters of a function up to the closing bracket -/
def parameters : Nat → Reader (List Text)
  | 0 => wrong
  | fuel + 1 => do
    let t ← name
    if ← takes [','] then
      passFeeds
      let ts ← parameters fuel
      if ts.contains t then refuse (t ++ " is duplicated in argument list")
      pure (t :: ts)
    else pure [t]

/-- what a rule does: it prints the record if nothing is said -/
def ruleBody (fuel : Nat) : Reader Statement := do
  if ← isSign ['\x7b'] then block fuel { inRule := true } else pure (.print false [] none)

/-- a function after its keyword -/
def function (fuel : Nat) : Reader Function := do
  let name ← match ← take with
    | .name t | .call t => pure t
    | _ => wrong
  must ['(']
  let ps ← if ← isSign [')'] then pure [] else parameters fuel
  must [')']
  passFeeds
  pure { name, parameters := ps, body := ← block fuel { inFunction := true } }

/-- a rule with a choice of records; a rule without braces ends with its line -/
def rule (fuel number : Nat) : Reader (Choice × Statement) := do
  let first ← expression fuel {}
  let choice ← if ← takes [','] then
      passFeeds
      pure (Choice.range number first (← expression fuel {}))
    else pure (.when first)
  let braced ← isSign ['\x7b']
  let body ← ruleBody fuel
  if !braced then
    match (← ahead).token with
    | .feed | .finish | .sign [';'] => pure ()
    | _ => wrong
  pure (choice, body)

/-- what is done before or after all records, after its keyword -/
def bareBlock (fuel : Nat) : Reader Statement := do
  let _ ← take
  if ← isSign ['\x7b'] then block fuel {} else wrong

/-- what is wrong where there are braces that close nothing -/
def extraBraces : Reader Script := do
  let words ← get
  let braces := words.takeWhile (·.token == .sign ['\x7d'])
  let own : List Text := braces.map fun l => "line " ++ Text.ofNat l.line ++ ": extra '\x7d'"
  let after := words.drop braces.length
  let more : List Text := match after with
    | l :: _ => ["line " ++ Text.ofNat l.line ++ ": syntax error at or near " ++ l.token.shown]
    | [] => []
  throw ⟨own ++ more⟩

/-- the rules of a script, of which one may end with a semicolon; each step reads one of them -/
def readRules (fuel : Nat) : Nat → Script → Reader Script
  | 0, s => pure s
  | n + 1, s => do
    passFeeds
    let onward (s : Script) : Reader Script := do
      let _ ← takes [';']
      readRules fuel n s
    match (← ahead).token with
    | .finish => pure s
    | .sign ['\x7d'] => extraBraces
    | .sign ['\x7b'] =>
      let b ← block fuel { inRule := true }
      onward { s with rules := s.rules ++ [(.always, b)] }
    | t =>
      if t = .keyword "BEGIN" then
        let b ← bareBlock fuel
        onward { s with before := s.before ++ [b] }
      else if t = .keyword "END" then
        let b ← bareBlock fuel
        onward { s with after := s.after ++ [b] }
      else if t = .keyword "function" then
        let _ ← take
        let f ← function fuel
        if s.functions.any (·.name == f.name) then refuse ("redefinition of " ++ f.name)
        onward { s with functions := s.functions ++ [f] }
      else
        let r ← rule fuel s.rules.length
        onward { s with rules := s.rules ++ [r] }

/-- how many braces stay open -/
def bracesOpen (ls : List Lexeme) : Nat :=
  ls.foldl (fun n l =>
    if l.token = .sign ['\x7b'] then n + 1 else if l.token = .sign ['\x7d'] then n - 1 else n) 0

/-- the script of a text -/
def Script.of (t : Text) : Except ScriptFault Script := do
  let ls ← Lexeme.all t
  let fuel := 20 * ls.length + 20
  let final := (ls.getLast?.map (·.line)).getD 1
  let (s, _) ← ((readRules fuel ls.length {}).run ls).mapError fun f =>
    let lacking := ScriptFault.single final "missing \x7d near end of file"
    if bracesOpen ls = 0 ∨ f = lacking then f else ⟨f.remarks ++ lacking.remarks⟩
  let called := ls.filterMap fun l => match l.token with
    | .call name => some name
    | _ => none
  match called.find? fun name => !s.functions.any (·.name == name) with
  | some name => throw (.single final ("function " ++ name ++ " never defined"))
  | none => pure s

end DatabaseTypes.Filter.Records
