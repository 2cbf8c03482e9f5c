import DatabaseTypes.Fault
import DatabaseTypes.Markup.Literal.Grammar
import DatabaseTypes.Text.Lines

/-!
# Handlers

A tag whose name begins with an at sign names something that is done when the text is clicked on.
What is given to it is a name with parameters, or parameters alone, and these are a literal.

* `Markup.verdictOf`            the value of a literal, as far as it counts
* `Markup.Handler.parameters`   the parameters in what is given to a tag
* `Markup.Handler.check`        what is given to a tag can be read, or why it cannot
-/

namespace DatabaseTypes.Markup

/-! ## values -/

/-- can a value be a member of a set? If not, its kind is told. -/
inductive Hashing where
  | fine
  | unhashable (kind : Text)
  deriving DecidableEq

/-- why an expression has no value -/
inductive ValueFault where
  /-- it is no literal -/
  | malformed
  /-- something is unpacked where a key is needed -/
  | noKey
  /-- a member of a set or a key cannot be one -/
  | unhashable (kind : Text)
  deriving DecidableEq

/-- the fault in words -/
def ValueFault.message : ValueFault → Text
  | .malformed => "malformed node or string on line 1"
  | .noKey => "malformed node or string: None"
  | .unhashable kind => "unhashable type: '" ++ kind ++ "'"

/-- is an expression a number with or without a sign, and an imaginary one only if it may be? -/
def isSignedNumber : Expression → Bool
  | .number _ => true
  | .signed (.number _) => true
  | _ => false

/-- is an expression an imaginary number? -/
def isImaginary : Expression → Bool
  | .number imaginary => imaginary
  | .signed e => isImaginary e
  | _ => false

/-- a value that must be a member of a set -/
def Hashing.check : Hashing → Except ValueFault Unit
  | .fine => .ok ()
  | .unhashable kind => .error (.unhashable kind)

/-- whether a value can be a member of a set, or why there is no value -/
abbrev Verdict := Except ValueFault Hashing

/-- whether the parts of a whole can all be members of a set -/
def Verdict.all : List Verdict → Verdict
  | [] => .ok .fine
  | v :: vs => do
    let h ← v
    let more ← all vs
    pure (if h = .fine then more else h)

/-- values that must be members of a set, one after the other -/
def Verdict.members : List Verdict → Except ValueFault Unit
  | [] => .ok ()
  | v :: vs => do
    (← v).check
    members vs

/-- keys with their values, one after the other; there must be a key -/
def Verdict.pairs : List (Option Verdict) → List Verdict → Except ValueFault Unit
  | none :: _, _ => .error .noKey
  | some k :: ks, v :: vs => do
    let h ← k
    let _ ← v
    h.check
    pairs ks vs
  | _, _ => .ok ()

mutual

/-- the value of a literal: all that counts is whether it can be a member of a set -/
def verdictOf : Expression → Verdict
  | .constant _ => .ok .fine
  | .number _ => .ok .fine
  | .text => .ok .fine
  | .tuple es => Verdict.all (verdictsOf es)
  | .set es => (Verdict.members (verdictsOf es)).map fun _ => .unhashable "set"
  | .dictionary keys values =>
    (Verdict.pairs (keyVerdicts keys) (verdictsOf values)).map fun _ => .unhashable "dict"
  | .call (.name name) bare =>
    if name = "set" ∧ bare then .ok (.unhashable "set") else .error .malformed
  | .signed e => if isSignedNumber (.signed e) then .ok .fine else .error .malformed
  | .sum left right =>
    let wholes := isSignedNumber left && !isImaginary left
    match right with
    | .number true => if wholes then .ok .fine else .error .malformed
    | _ => .error .malformed
  | _ => .error .malformed

/-- the values of literals -/
def verdictsOf : List Expression → List Verdict
  | [] => []
  | e :: es => verdictOf e :: verdictsOf es

/-- the values of keys; what is unpacked has no key -/
def keyVerdicts : List (Option Expression) → List (Option Verdict)
  | [] => []
  | none :: ks => none :: keyVerdicts ks
  | some k :: ks => some (verdictOf k) :: keyVerdicts ks

end

namespace Handler

/-! ## parameters -/

/-- may the name of a handler hold a character? -/
def isInHandlerName (c : Char) : Bool := isInName c || c == '.'

/-- a text without the line feed at its end -/
def withoutFeed (t : Text) : Text := if t.getLast? = some '\n' then t.dropLast else t

/-- the parameters in what is given to a tag: those after a name in brackets, none after a name
alone, or all of it -/
def parameters (given : Text) : Text :=
  let t := withoutFeed given
  let rest := t.dropWhile isInHandlerName
  if rest.isEmpty then ['(', ')']
  else if rest.head? = some '(' && rest.getLast? == some ')' && !rest.contains '\n' then rest
  else given

/-- what is given to a tag can be read, or why it cannot -/
def check (given : Text) : Except Fault Unit := do
  let own := parameters (Text.trim given)
  if own.contains '\x00' then
    throw (.badHandler given none "source code string cannot contain null bytes")
  match expressionOf (own.dropWhile fun c => c == ' ' || c == '\t') with
  | .error reason => throw (.badHandler given (some own) reason)
  | .ok e => match verdictOf e with
    | .ok _ => pure ()
    | .error f => throw (.badHandler given none f.message)

end Handler
end DatabaseTypes.Markup
