import DatabaseTypes.Filter.Basic

/-!
# Sums

Whole numbers of sixty-four bits, joined by operators, with variables.

* `Shell.Sum.value`   the value of a sum, and the variables that it sets
-/

namespace DatabaseTypes.Filter.Shell.Sum

/-- what is left of a sum, and the variables that it has set, the last ones first -/
structure Reckoning where
  rest : Text
  assigned : List (Text × Int) := []

/-- what is wrong with a sum: its own text, or the value of a variable -/
inductive Refusal where
  | sum (what : Text)
  | value (t : Text)

/-- a step of reckoning -/
abbrev Step := StateT Reckoning (Except Refusal)

/-- the number of sixty-four bits -/
def wrapped (n : Int) : Int := Int.bmod n (Nat.pow 2 64)

/-- blanks skipped -/
def blanks : Step Unit := modify fun r =>
  { r with rest := r.rest.dropWhile fun c => c == ' ' || c == '\t' || c == '\n' }

/-- characters skipped -/
def skip (n : Nat) : Step Unit := modify fun r => { r with rest := r.rest.drop n }

/-- the operators between two numbers: their words and how strongly they bind -/
def operators : List (Text × Nat) := [
  ("||", 1), ("&&", 2), ("==", 6), ("!=", 6), ("<<", 8), (">>", 8), ("<=", 7), (">=", 7), ("|", 3),
  ("^", 4), ("&", 5), ("<", 7), (">", 7), ("+", 9), ("-", 9), ("*", 10), ("/", 10), ("%", 10)]

/-- the operators that set a variable -/
def settings : List Text := ["=", "+=", "-=", "*=", "/=", "%=", "<<=", ">>=", "&=", "^=", "|="]

/-- the operator at the front, unless it sets a variable -/
def operatorAhead (t : Text) : Option (Text × Nat) :=
  (operators.find? fun o => Text.startsWith o.1 t).filter fun o =>
    (t.drop o.1.length).head? != some '=' || ["==", "!=", "<=", ">=", "||", "&&", "<", ">"].any
      fun w => w.toList == o.1

/-- the operator at the front that sets a variable -/
def settingAhead (t : Text) : Option Text :=
  (settings.find? fun o => Text.startsWith o t).filter fun o =>
    o != ['='] || (t.drop 1).head? != some '='

/-- a bit operation on whole numbers of sixty-four bits -/
def bits (f : Nat → Nat → Nat) (x y : Int) : Int :=
  let word (n : Int) : Nat := (n % (Nat.pow 2 64 : Nat)).toNat
  wrapped (f (word x) (word y))

/-- two numbers joined by an operator -/
def applied (o : Text) (x y : Int) : Except Text Int :=
  let flag (b : Bool) : Except Text Int := .ok (if b then 1 else 0)
  let table : List (Text × (Unit → Except Text Int)) := [
    ("||", fun _ => flag (x != 0 || y != 0)), ("&&", fun _ => flag (x != 0 && y != 0)),
    ("==", fun _ => flag (x == y)), ("!=", fun _ => flag (x != y)), ("<=", fun _ => flag (x ≤ y)),
    (">=", fun _ => flag (y ≤ x)), ("<", fun _ => flag (x < y)), (">", fun _ => flag (y < x)),
    ("|", fun _ => .ok (bits Nat.lor x y)), ("^", fun _ => .ok (bits Nat.xor x y)),
    ("&", fun _ => .ok (bits Nat.land x y)),
    ("<<", fun _ => .ok (wrapped (x * (Nat.pow 2 (y % 64).toNat : Nat)))),
    (">>", fun _ => .ok (x.fdiv (Nat.pow 2 (y % 64).toNat : Nat))),
    ("+", fun _ => .ok (wrapped (x + y))), ("-", fun _ => .ok (wrapped (x - y))),
    ("*", fun _ => .ok (wrapped (x * y))),
    ("/", fun _ => if y = 0 then .error "division by zero" else .ok (wrapped (x.tdiv y))),
    ("%", fun _ => if y = 0 then .error "division by zero" else .ok (x.tmod y))]
  match table.lookup o with
  | some f => f ()
  | none => .ok y

/-- the greatest number of sixty-four bits -/
def greatest : Nat := Nat.pow 2 63 - 1

/-- a number of digits at the front, in base eight or sixteen if a zero or `0x` stands before them, and
what follows it -/
def numeral (t : Text) : Nat × Text :=
  let based (base : Nat) (t : Text) : Nat × Text :=
    let ds := t.takeWhile fun c => (Text.hexDigit? c).any (· < base)
    (ds.foldl (fun n c => base * n + (Text.hexDigit? c).getD 0) 0, t.drop ds.length)
  match t with
  | '0' :: x :: d :: ds =>
    if (x = 'x' || x = 'X') && (Text.hexDigit? d).isSome then based 16 (d :: ds) else based 8 t
  | '0' :: _ => based 8 t
  | _ => based 10 t

/-- the number of a value in words, which has blanks around it at most -/
def numberOf? (t : Text) : Option Int :=
  let (negative, digits) := Decimal.sign t.trim
  if t.trim.isEmpty then some 0
  else if !digits.head?.any Text.isDigit then none
  else match numeral digits with
    | (n, []) =>
      if n ≤ greatest then some (if negative then -(n : Int) else n)
      else if negative && n = greatest + 1 then some (-(n : Int))
      else none
    | _ => none

mutual

/-- a sum whose operators bind at least so strongly; each step goes down by one -/
def joined (lookup : Text → Text) (least : Nat) : Nat → Step Int
  | 0 => throw (.sum "expecting primary")
  | fuel + 1 => do
    let x ← primary lookup fuel
    more lookup least x fuel

/-- what follows a number in a sum -/
def more (lookup : Text → Text) (least : Nat) (x : Int) : Nat → Step Int
  | 0 => pure x
  | fuel + 1 => do
    blanks
    match operatorAhead (← get).rest with
    | some (o, strength) =>
      if strength < least then pure x
      else do
        skip o.length
        let y ← joined lookup (strength + 1) fuel
        match applied o x y with
        | .ok z => more lookup least z fuel
        | .error t => throw (.sum t)
    | none =>
      if least = 0 && (← get).rest.head? == some '?' then do
        skip 1
        let y ← joined lookup 0 fuel
        blanks
        if (← get).rest.head? != some ':' then throw (.sum "expecting ':'")
        skip 1
        let z ← joined lookup 0 fuel
        pure (if x = 0 then z else y)
      else pure x

/-- a number, a variable, a sum in brackets, or one of them after a sign -/
def primary (lookup : Text → Text) : Nat → Step Int
  | 0 => throw (.sum "expecting primary")
  | fuel + 1 => do
    blanks
    let t := (← get).rest
    match t with
    | [] => throw (.sum "expecting primary")
    | c :: _ =>
      if c = '(' then do
        skip 1
        let x ← joined lookup 0 fuel
        blanks
        if (← get).rest.head? != some ')' then throw (.sum "expecting ')'")
        skip 1
        pure x
      else if c = '-' ∨ c = '+' ∨ c = '!' ∨ c = '~' then do
        skip 1
        let x ← primary lookup fuel
        pure (if c = '-' then wrapped (-x) else if c = '+' then x
          else if c = '!' then (if x = 0 then 1 else 0) else -x - 1)
      else if Text.isDigit c then do
        let (n, rest) := numeral t
        modify fun r => { r with rest }
        pure (min n greatest : Nat)
      else if Text.isLetter c || c == '_' then do
        let name := t.takeWhile fun c => Text.isLetter c || Text.isDigit c || c == '_'
        skip name.length
        blanks
        let value ← match (← get).assigned.lookup name with
          | some n => pure n
          | none => match numberOf? (lookup name) with
            | some n => pure n
            | none => throw (.value (lookup name))
        match settingAhead (← get).rest with
        | none => pure value
        | some o => do
          skip o.length
          let y ← joined lookup 0 fuel
          match applied o.dropLast value y with
          | .ok z => do
            modify fun r => { r with assigned := (name, z) :: r.assigned }
            pure z
          | .error t => throw (.sum t)
      else throw (.sum "expecting primary")

end

/-- the value of a sum and the variables that it sets, or what is wrong with it in words -/
def value (lookup : Text → Text) (t : Text) : Except Text (Int × List (Text × Int)) :=
  let wrong : Refusal → Text
    | .sum what => "arithmetic expression: " ++ what ++ ": \"" ++ t ++ ['"']
    | .value v => "Illegal number: " ++ v
  let whole : Step Int := do
    let x ← joined lookup 0 (4 * t.length + 4)
    blanks
    if !(← get).rest.isEmpty then throw (.sum "expecting EOF")
    pure x
  match whole.run { rest := t } with
  | .ok (x, r) => .ok (x, r.assigned.reverse)
  | .error what => .error (wrong what)

end DatabaseTypes.Filter.Shell.Sum
