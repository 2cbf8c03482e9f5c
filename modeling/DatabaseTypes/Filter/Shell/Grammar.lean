import DatabaseTypes.Text.Basic

/-!
# The grammar of a shell

* `Shell.Piece`, `Shell.Word`   words, of text, variables and outputs of commands
* `Shell.Redirection`   where a command reads and writes
* `Shell.special`       the names of the commands whose failure ends the shell
* `Shell.Command`       commands, and how they are joined
-/

namespace DatabaseTypes.Filter.Shell

/-- can a name begin with a character? -/
def beginsName (c : Char) : Bool := Text.isLetter c || c == '_'

/-- can a name hold a character? -/
def isInName (c : Char) : Bool := beginsName c || Text.isDigit c

/-- is a text a name? -/
def isName (t : Text) : Bool := t.head?.any beginsName && t.all isInName

mutual

/-- what is asked of a variable -/
inductive Use where
  | value
  | length
  /-- its value or a word, or its value without what matches a word -/
  | changed (mark : Text) (word : List Piece)
  /-- something that cannot be asked -/
  | bad

/-- a piece of a word; a flag tells whether it stands between quotes -/
inductive Piece where
  | plain (c : Char)
  | quoted (t : Text)
  | parameter (inQuotes : Bool) (name : Text) (use : Use)
  | output (inQuotes : Bool) (script : Text)
  | sum (inQuotes : Bool) (expression : List Piece)

end

/-- a word -/
abbrev Word := List Piece

/-- the text of a word that has nothing but plain text -/
def plainText? (w : Word) : Option Text :=
  w.mapM fun p => match p with
    | .plain c => some c
    | _ => none

/-- the text of a word without its quotes, with variables as nothing -/
def bareText (w : Word) : Text :=
  w.flatMap fun p => match p with
    | .plain c => [c]
    | .quoted t => t
    | _ => []

/-- is a part of a word between quotes? -/
def hasQuotes (w : Word) : Bool :=
  w.any fun p => match p with
    | .quoted _ => true
    | _ => false

/-- where a command reads or writes: a file, the place of another number, or a text in the script -/
structure Redirection where
  number : Nat
  mark : Text
  target : Word

/-- the names of the commands whose failure ends the shell -/
def special : List Text := [".", ":", "break", "continue", "eval", "exec", "exit", "export", "local",
  "readonly", "return", "set", "shift", "times", "trap", "unset"]

/-- a command -/
inductive Command where
  | simple (line : Nat) (assignments : List (Text × Word)) (words : List Word)
      (redirections : List Redirection)
  | redirected (line : Nat) (command : Command) (redirections : List Redirection)
  | pipeline (commands : List Command)
  | inverted (command : Command)
  | both (first second : Command)
  | either (first second : Command)
  | sequence (first second : Command)
  | background (command : Command)
  | apart (command : Command)
  | conditional (test yes : Command) (no : Option Command)
  | repeated (wanted : Bool) (test body : Command)
  | each (line : Nat) (name : Text) (words : Option (List Word)) (body : Command)
  | choice (line : Nat) (subject : Word) (cases : List (List Word × Option Command))
  | definition (name : Text) (body : Command)

end DatabaseTypes.Filter.Shell
