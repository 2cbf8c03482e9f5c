import DatabaseTypes.Filter.Scene
import DatabaseTypes.Filter.Writing

/-!
# Conditions

Tests of texts, numbers and files, joined by words.

* `Filter.Condition.holds`   does a condition in words hold?
* `Filter.testing`           the program that ends with the answer
* `Filter.testingBracketed`  the same with a bracket at the end
-/

namespace DatabaseTypes.Filter
namespace Condition

/-! ## simple tests -/

/-- the tests of one operand -/
def unary : List Text :=
  "bcdefghkLprstSuwxOGnz".toList.map fun c => ['-', c]

/-- the tests of two operands -/
def binary (m : Manner) : List Text :=
  ["=", "!=", "<", ">", "-eq", "-ne", "-gt", "-ge", "-lt", "-le", "-nt", "-ot", "-ef"].map String.toList
    ++ if m = .file then ["==".toList] else []

/-- a whole number with blanks around it -/
def number? (t : Text) : Option Int :=
  let (negative, digits) := Decimal.sign t.trim
  (count? digits).map fun n => if negative then -(n : Int) else n

/-- what is wrong with a number, in words -/
def badNumber (m : Manner) (t : Text) : Text :=
  if m = .shell then "Illegal number: " ++ t else "invalid integer '" ++ t ++ "'"

/-- a test of one operand -/
def ofOne (s : Scene) (test operand : Text) : Bool :=
  let e := if operand = Scene.void then none
    else ((Scene.entry { s with files := Scene.withUsualPlaces s.files } operand).toOption.bind (·.2))
  let exists? := e.isSome || operand == Scene.void
  match test with
  | ['-', 'n'] => !operand.isEmpty
  | ['-', 'z'] => operand.isEmpty
  | ['-', 'e'] | ['-', 'r'] | ['-', 'w'] | ['-', 'O'] | ['-', 'G'] => exists?
  | ['-', 'c'] => operand == Scene.void
  | ['-', 'd'] | ['-', 'x'] => e == some .directory
  | ['-', 'f'] => e.any (· != .directory)
  | ['-', 's'] => match e with
    | some (.file bytes) => !bytes.isEmpty
    | some .directory => true
    | none => false
  | _ => false

/-- a test of two operands, or what is wrong with them -/
def ofTwo (s : Scene) (m : Manner) (left test right : Text) : Except Text Bool :=
  let entryOf (t : Text) : Option Location :=
    (s.entry t).toOption.bind fun r => r.2.map fun _ => r.1
  let numbers (holds : Int → Int → Bool) : Except Text Bool :=
    match number? left, number? right with
    | none, _ => .error (badNumber m left)
    | _, none => .error (badNumber m right)
    | some x, some y => .ok (holds x y)
  let table : List (Text × (Unit → Except Text Bool)) := [
    ("=", fun _ => .ok (left == right)), ("==", fun _ => .ok (left == right)),
    ("!=", fun _ => .ok (left != right)),
    ("<", fun _ => .ok (left != right && left.atMost right)),
    (">", fun _ => .ok (left != right && right.atMost left)),
    ("-eq", fun _ => numbers (· == ·)), ("-ne", fun _ => numbers (· != ·)),
    ("-gt", fun _ => numbers fun x y => decide (y < x)),
    ("-ge", fun _ => numbers fun x y => decide (y ≤ x)),
    ("-lt", fun _ => numbers fun x y => decide (x < y)),
    ("-le", fun _ => numbers fun x y => decide (x ≤ y)),
    ("-nt", fun _ => .ok ((entryOf left).isSome && (entryOf right).isNone)),
    ("-ot", fun _ => .ok ((entryOf left).isNone && (entryOf right).isSome)),
    ("-ef", fun _ => .ok ((entryOf left).isSome && entryOf left == entryOf right))]
  match table.lookup test with
  | some answer => answer ()
  | none => .error (test ++ ": unexpected operator")

/-! ## joined tests -/

/-- an answer, the last word that was read, and the words after it -/
structure Answer where
  value : Bool := false
  last : Text := []
  rest : List Text := []

/-- is a word a test of one operand here? Before an operator between operands it is an operand. -/
def isUnary (m : Manner) (word : Text) (rest : List Text) : Bool :=
  unary.contains word && match rest with
  | [] => false
  | [_] => true
  | next :: after :: _ => !((binary m).contains next && after != [')'])

/-- what is wrong if an operand is missing after a word -/
def lacking (m : Manner) (word : Text) : Text :=
  if m = .shell then word ++ ": argument expected" else "missing argument after '" ++ word ++ "'"

mutual

/-- alternatives; each step goes down by one -/
def anyOf (s : Scene) (m : Manner) : Nat → List Text → Except Text Answer
  | 0, _ => .ok {}
  | fuel + 1, ws => do
    let a ← allOf s m fuel ws
    match a.rest with
    | ['-', 'o'] :: ws =>
      let b ← anyOf s m fuel ws
      pure { b with value := a.value || b.value }
    | _ => pure a

/-- conditions that hold together -/
def allOf (s : Scene) (m : Manner) : Nat → List Text → Except Text Answer
  | 0, _ => .ok {}
  | fuel + 1, ws => do
    let a ← oneOf s m fuel ws
    match a.rest with
    | ['-', 'a'] :: ws =>
      let b ← allOf s m fuel ws
      pure { b with value := a.value && b.value }
    | _ => pure a

/-- one condition -/
def oneOf (s : Scene) (m : Manner) : Nat → List Text → Except Text Answer
  | 0, _ => .ok {}
  | _ + 1, [] => .ok {}
  | fuel + 1, word :: rest =>
    if word = ['!'] && !rest.isEmpty && !(rest.head?.any fun w => (binary m).contains w && 1 < rest.length)
    then do
      let a ← oneOf s m fuel rest
      pure { a with value := !a.value }
    else if word = ['('] && !rest.isEmpty then do
      if rest.head? = some [')'] then pure { last := [')'], rest := rest.drop 1 }
      else
        let a ← anyOf s m fuel rest
        match a.rest with
        | [')'] :: ws => pure { a with last := [')'], rest := ws }
        | _ => throw "closing paren expected".toList
    else if isUnary m word rest then
      match rest with
      | operand :: ws => .ok { value := ofOne s word operand, last := operand, rest := ws }
      | [] => .error (lacking m word)
    else match rest with
      | test :: right :: ws =>
        if (binary m).contains test then do
          pure { value := ← ofTwo s m word test right, last := right, rest := ws }
        else .ok { value := !word.isEmpty, last := word, rest }
      | [test] =>
        if (binary m).contains test then .error (lacking m test)
        else .ok { value := !word.isEmpty, last := word, rest }
      | [] => .ok { value := !word.isEmpty, last := word, rest }

end

/-- what is wrong with words after a condition -/
def tooMany (m : Manner) (last : Text) (rest : List Text) : Text :=
  if m = .shell then last ++ ": unexpected operator"
  else match rest with
    | [w] => "missing argument after '" ++ w ++ "'"
    | _ => "extra argument '" ++ rest.headD [] ++ "'"

/-- does a condition in words hold, or what is wrong with it? -/
def holds (s : Scene) (m : Manner) (ws : List Text) : Except Text Bool := do
  let a ← match ws with
    | [left, test, right] =>
      if (binary m).contains test then
        (ofTwo s m left test right).map fun value => { value, last := right : Answer }
      else anyOf s m 12 ws
    | ws => anyOf s m (4 * ws.length + 4) ws
  if a.rest.isEmpty then pure a.value else throw (tooMany m a.last a.rest)

end Condition

/-- end with the answer to a condition -/
def testing (m : Manner) : Program := fun s args input =>
  match Condition.holds s m args with
  | .error t => s.complaint t input 2
  | .ok value => { ending := .status (if value then 0 else 1), left := input }

/-- the same with a bracket at the end -/
def testingBracketed (m : Manner) : Program := fun s args input =>
  if args.getLast? = some [']'] then testing m s args.dropLast input
  else s.complaint (if m = .shell then "missing ]" else "missing ']'") input 2

end DatabaseTypes.Filter
