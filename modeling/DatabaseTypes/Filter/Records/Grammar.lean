import DatabaseTypes.Decimal.Reading
import DatabaseTypes.Filter.Pattern

/-!
# Scripts about records

A text is read record by record, and each record has fields.  A script has rules: what is done for
which records.

* `Filter.Records.Expression`   what has a value
* `Filter.Records.Statement`    what is done
* `Filter.Records.Choice`       the records that a rule is for
* `Filter.Records.Script`       rules and functions
* `Filter.Records.Token`        the words of a script
* `Filter.Records.Lexeme.all`   the words of a text, with the numbers of their lines
-/

namespace DatabaseTypes.Filter.Records

/-- how a number is made of two others -/
inductive Operator where
  | add
  | subtract
  | multiply
  | divide
  | remainder
  | power
  deriving DecidableEq

/-- how a value stands to another -/
inductive Relation where
  | below
  | atMost
  | equal
  | unequal
  | above
  | atLeast
  deriving DecidableEq

/-- what has a value -/
inductive Expression where
  | number (x : Binary64)
  | text (t : Text)
  /-- does a pattern occur in the record? -/
  | pattern (p : Pattern)
  | variable (name : Text)
  | field (e : Expression)
  | element (array : Text) (subscripts : List Expression)
  | assign (target value : Expression)
  | update (o : Operator) (target value : Expression)
  /-- one more or less; the value is the new one or the old one -/
  | step (new up : Bool) (target : Expression)
  | choice (test yes no : Expression)
  | both (a b : Expression)
  | either (a b : Expression)
  | not (e : Expression)
  | signed (negative : Bool) (e : Expression)
  | arithmetic (o : Operator) (a b : Expression)
  | relation (r : Relation) (a b : Expression)
  | joined (a b : Expression)
  | matching (inverted : Bool) (e p : Expression)
  | within (subscripts : List Expression) (array : Text)
  | call (name : Text) (arguments : List Expression)
  /-- one of the functions that there are without a script -/
  | own (name : Text) (arguments : List Expression)
  /-- the next record of the input, of a file, or of what a command writes -/
  | nextRecord (target : Option Expression)
  | nextOfFile (file : Expression) (target : Option Expression)
  | nextOfCommand (command : Expression) (target : Option Expression)
  /-- several expressions between brackets -/
  | group (es : List Expression)
  deriving Inhabited

/-- where a text is written to -/
inductive Sink where
  | file
  | fileEnd
  | command
  deriving DecidableEq

/-- what is done -/
inductive Statement where
  | print (formatted : Bool) (arguments : List Expression) (target : Option (Sink × Expression))
  | value (e : Expression)
  | block (ss : List Statement)
  | conditional (test : Expression) (yes : Statement) (no : Option Statement)
  | loop (test : Expression) (body : Statement)
  | loopAfter (body : Statement) (test : Expression)
  | counted (first : Option Statement) (test : Option Expression) (step : Option Statement)
      (body : Statement)
  | each (name array : Text) (body : Statement)
  | next
  | nextFile
  | leave (status : Option Expression)
  | giveBack (value : Option Expression)
  | stop
  | goOn
  | erase (array : Text) (subscripts : Option (List Expression))
  deriving Inhabited

/-- the records that a rule is for: all, some, or those from one to another; the ranges are numbered -/
inductive Choice where
  | always
  | when (e : Expression)
  | range (number : Nat) (first last : Expression)

/-- a function: its name, its parameters, and what it does -/
structure Function where
  name : Text
  parameters : List Text
  body : Statement

/-- a script: what is done before the first record, for records, and after the last one -/
structure Script where
  before : List Statement := []
  rules : List (Choice × Statement) := []
  after : List Statement := []
  functions : List Function := []

/-- why a text is no script: what is wrong in words -/
structure ScriptFault where
  remarks : List Text
  deriving DecidableEq

/-- one thing that is wrong in a line -/
def ScriptFault.single (line : Nat) (message : Text) : ScriptFault :=
  ⟨["line " ++ Text.ofNat line ++ ": " ++ message]⟩

/-- is an expression something that can be given a value? -/
def Expression.isTarget : Expression → Bool
  | .variable _ | .field _ | .element _ _ => true
  | _ => false

/-- is an expression a field that is not written by its number, or the number of fields?  One more or less
belongs to it also after the sign of a field. -/
def Expression.isFieldTarget : Expression → Bool
  | .field _ => true
  | .variable name => name = "NF"
  | _ => false

/-! ## words -/

/-- a word of a script -/
inductive Token where
  | number (x : Binary64) (t : Text)
  | text (t : Text)
  | pattern (t : Text)
  | name (t : Text)
  /-- a name with a bracket at once -/
  | call (t : Text)
  /-- the name of a function that there is without a script -/
  | own (t : Text)
  | keyword (t : Text)
  | sign (t : Text)
  | feed
  | finish
  deriving DecidableEq, Inhabited

/-- a word with the number of its line, and how many round brackets are open before it -/
structure Lexeme where
  token : Token
  line : Nat
  brackets : Nat := 0
  deriving Inhabited

/-- the words that are part of the language -/
def keywords : List Text := ["BEGIN", "END", "if", "else", "while", "for", "do", "break", "continue", "exit",
  "return", "next", "nextfile", "delete", "print", "printf", "getline", "function", "in"]

/-- the names of the functions that there are without a script -/
def ownNames : List Text := ["length", "index", "substr", "split", "sub", "gsub", "match", "sprintf", "sin",
  "cos", "atan2", "exp", "log", "sqrt", "int", "rand", "srand", "system", "close", "fflush", "tolower",
  "toupper"]

/-- a word as it is shown where it is wrong -/
def Token.shown : Token → Text
  | .sign ['>', '>'] => ">"
  | .name ['N', 'F'] => "$"
  | .number _ t | .text t | .name t | .call t | .own t | .keyword t | .sign t => t
  | .pattern t => ['/'] ++ t ++ ['/']
  | .feed => "end of line"
  | .finish => "end of file"

/-- may a slash after a word divide by what follows? -/
def Token.endsValue : Token → Bool
  | .number _ _ | .text _ | .pattern _ | .name _ | .own _ => true
  | .sign t => t = [')'] || t = [']'] || t = ['$']
  | _ => false

/-! ## parts of words -/

/-- may a character stand in a name? -/
def isNameChar (c : Char) : Bool := Text.isLetter c || Text.isDigit c || c == '_'

/-- the characters for letters after a backslash -/
def escapeLetters : List (Char × Char) := [('n', '\n'), ('t', '\t'), ('r', '\r'), ('a', '\x07'), ('b', '\x08'),
  ('f', '\x0c'), ('v', '\x0b'), ('\\', '\\'), ('"', '"')]

/-- the character of an escape after its backslash, and what follows it -/
def escaped? (t : Text) : Option (Char × Text) :=
  match t with
  | [] => none
  | c :: rest =>
    if (octal? c).isSome then
      let (b, rest) := octalByte (c :: rest)
      some (Char.ofNat b.toNat, rest)
    else (escapeLetters.lookup c).map fun d => (d, rest)

/-- a text up to a quote, with its escapes as characters; other backslashes stay.  Each step uses up a
character. -/
def quotedText : Nat → Text → Option (Text × Text)
  | 0, _ | _ + 1, [] => none
  | fuel + 1, '\\' :: t => match t with
    | '\n' :: rest => quotedText fuel rest
    | t => match escaped? t with
      | some (c, rest) => (quotedText fuel rest).map fun r => (c :: r.1, r.2)
      | none => (quotedText fuel t).map fun r => ('\\' :: r.1, r.2)
  | fuel + 1, c :: t =>
    if c = '"' then some ([], t)
    else if c = '\n' then none
    else (quotedText fuel t).map fun r => (c :: r.1, r.2)

/-- the text of a pattern up to a slash that is neither after a backslash nor in a set, and what follows;
`inSet` tells whether a set is open -/
def patternText (inSet : Bool) : Text → Option (Text × Text)
  | [] => none
  | '\\' :: c :: t => (patternText inSet t).map fun r =>
    (if c = '/' then c :: r.1 else '\\' :: c :: r.1, r.2)
  | '[' :: ']' :: t => if inSet then (patternText false t).map fun r => ('[' :: ']' :: r.1, r.2)
    else (patternText true t).map fun r => ('[' :: ']' :: r.1, r.2)
  | '[' :: '^' :: ']' :: t => (patternText true t).map fun r => ('[' :: '^' :: ']' :: r.1, r.2)
  | c :: t =>
    if c = '\n' then none
    else if c = '/' && !inSet then some ([], t)
    else
      let inSet := if c = '[' then true else if c = ']' then false else inSet
      (patternText inSet t).map fun r => (c :: r.1, r.2)

/-- the number of characters of a number at the front of a text: digits with a point, and an exponent if
it has digits -/
def numberLength (t : Text) : Nat :=
  let whole := (t.takeWhile Text.isDigit).length
  let rest := t.drop whole
  let part := if rest.head? = some '.' then ((rest.drop 1).takeWhile Text.isDigit).length else 0
  let front := if rest.head? = some '.' then whole + 1 + part else whole
  if whole + part = 0 then 0
  else match t.drop front with
    | e :: u =>
      if e = 'e' ∨ e = 'E' then
        let mark := if u.head? = some '+' ∨ u.head? = some '-' then 1 else 0
        let digits := ((u.drop mark).takeWhile Text.isDigit).length
        if digits = 0 then front else front + 1 + mark + digits
      else front
    | [] => front

/-- the number that so many characters at the front of a text are -/
def numberAt (t : Text) : Binary64 :=
  match Decimal.parts? (t.take (numberLength t)) with
  | some (digits, exponent) => .ofDecimal false digits exponent
  | none => .zero false

/-- the signs of more than one character, the longest ones first -/
def longSigns : List Text := ["&&", "||", "++", "--", "+=", "-=", "*=", "/=", "%=", "^=", "==", "<=", ">=",
  "!=", "!~", ">>"]

/-- the signs of one character -/
def shortSigns : Text := "\x7b\x7d()[];,+-*/%^!<>|?:~$="

/-! ## words -/

/-- the word at the front of a text that starts with a sign, and what follows -/
def signAt? (t : Text) : Option (Text × Text) :=
  match longSigns.find? fun s => Text.startsWith s t with
  | some s => some (s, t.drop s.length)
  | none => match t with
    | c :: rest => if shortSigns.contains c then some ([c], rest) else none
    | [] => none

/-- the word of a name, given what follows it -/
def wordOf (name rest : Text) : Token :=
  if keywords.contains name then .keyword name
  else if ownNames.contains name then .own name
  else if rest.head? = some '(' then .call name
  else .name name

/-- the words of a text, where `last` is the word before them; each step uses up a character -/
def Lexeme.allFrom : Nat → Nat → Nat → Token → Text → Except ScriptFault (List Lexeme)
  | 0, line, brackets, _, _ | _ + 1, line, brackets, _, [] => .ok [⟨.finish, line, brackets⟩]
  | fuel + 1, line, brackets, last, c :: t =>
    let with_ (token : Token) (rest : Text) : Except ScriptFault (List Lexeme) :=
      let more := if token = .sign ['('] then brackets + 1 else brackets
      let more := if token = .sign [')'] then more - 1 else more
      (allFrom fuel line more token rest).map (⟨token, line, brackets⟩ :: ·)
    let runaway (what shown : Text) : Except ScriptFault (List Lexeme) :=
      .error (.single line ("runaway " ++ what ++ [' '] ++ (shown.takeWhile (· != '\n')).take 11 ++ " ..."))
    if c = '\n' then (allFrom fuel (line + 1) brackets .feed t).map (⟨.feed, line, brackets⟩ :: ·)
    else if c = ' ' ∨ c = '\t' ∨ c = '\r' then allFrom fuel line brackets last t
    else if c = '#' then allFrom fuel line brackets last (t.dropWhile (· != '\n'))
    else if c = '\\' && t.head? == some '\n' then allFrom fuel (line + 1) brackets last (t.drop 1)
    else if c = ')' && brackets == 0 then .error (.single line "extra ')'")
    else if c = '"' then match quotedText (t.length + 1) t with
      | some (u, rest) => with_ (.text u) rest
      | none => runaway "string constant" (c :: t)
    else if c = '/' && !last.endsValue then match patternText false t with
      | some (u, rest) => with_ (.pattern u) rest
      | none => runaway "regular expression" (c :: t)
    else if 0 < numberLength (c :: t) then
      let n := numberLength (c :: t)
      with_ (.number (numberAt (c :: t)) ((c :: t).take n)) ((c :: t).drop n)
    else if isNameChar c then
      let name := (c :: t).takeWhile isNameChar
      let rest := (c :: t).drop name.length
      with_ (wordOf name rest) rest
    else match signAt? (c :: t) with
      | some (s, rest) => with_ (.sign s) rest
      | none =>
        .error ⟨[Text.ofNat line ++ ": unexpected character '" ++ [c] ++ ['\'']]⟩

/-- the words of a text, of which the last line is ended -/
def Lexeme.all (t : Text) : Except ScriptFault (List Lexeme) :=
  let t := if t.getLast? == some '\n' then t else t ++ ['\n']
  allFrom (t.length + 1) 1 0 .feed t

end DatabaseTypes.Filter.Records
