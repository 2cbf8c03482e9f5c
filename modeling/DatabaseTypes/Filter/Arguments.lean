import DatabaseTypes.Filter.Basic

/-!
# Arguments of filters

Options are letters after a dash; letters share a dash, and the value of an option follows it at once
or as the next argument.  A word after two dashes, or its beginning, stands for a letter, and its value
follows an equals sign or is the next argument.  Operands may stand between options, and two dashes
alone end the options.  An amount is a number of digits, which a unit may multiply.  A unit counts by powers
of 1024, or of 1000 if it ends with a `B` of its own.

* `Filter.Arguments`       options and operands
* `Filter.Arguments.of`    the options and operands of arguments
* `Filter.Arguments.ofFront`   the options in front of the first operand
* `Filter.amountOf`     the number that a text means
* `Filter.bounded`      a number between two others, or what is wrong with the text for it
* `Filter.chosenWord`   the word of a list that a text begins
-/

namespace DatabaseTypes.Filter

/-- options with their values, in their order, and operands -/
structure Arguments where
  options : List (Char × Text) := []
  operands : List Text := []

/-- the options that a program has: letters without a value, with one, and with one that may be left
out, words that stand for letters, and its status if it is given others -/
structure Letters where
  plain : Text := []
  valued : Text := []
  optional : Text := []
  words : List (Text × Char) := []
  failure : Nat := 1

/-- why arguments are no options and operands -/
inductive BadArgument where
  | letter (c : Char)
  | word (t : Text)
  | noValue (c : Char)
  | ambiguous (t : Text) (words : List Text)
  | noWordValue (word : Text)
  | needlessValue (word : Text)
  deriving DecidableEq

/-- what is wrong, in words -/
def BadArgument.message : BadArgument → Text
  | .letter c => "invalid option -- '" ++ [c] ++ "'"
  | .word t => "unrecognized option '" ++ t ++ "'"
  | .noValue c => "option requires an argument -- '" ++ [c] ++ "'"
  | .ambiguous t words => "option '--" ++ t ++ "' is ambiguous; possibilities:"
    ++ (words.map fun (w : Text) => " '--" ++ w ++ ['\'']).flatten
  | .noWordValue w => "option '--" ++ w ++ "' requires an argument"
  | .needlessValue w => "option '--" ++ w ++ "' doesn't allow an argument"

namespace Arguments

/-- is an option given? -/
def has (a : Arguments) (c : Char) : Bool := a.options.any (·.1 == c)

/-- the value of an option, the last one if it is given several times -/
def value? (a : Arguments) (c : Char) : Option Text :=
  (a.options.reverse.find? (·.1 == c)).map (·.2)

/-- the options of letters after a dash, and the arguments after them -/
def ofLetters (ls : Letters) : Text → List Text → Except BadArgument (List (Char × Text) × List Text)
  | [], more => .ok ([], more)
  | c :: cs, more =>
    if ls.plain.contains c then (ofLetters ls cs more).map fun r => ((c, []) :: r.1, r.2)
    else if ls.optional.contains c then .ok ([(c, cs)], more)
    else if ls.valued.contains c then
      if !cs.isEmpty then .ok ([(c, cs)], more)
      else match more with
        | [] => .error (.noValue c)
        | v :: more => .ok ([(c, v)], more)
    else .error (.letter c)

/-- the letter that a word or its beginning stands for -/
def letterOfWord (ls : Letters) (t : Text) : Except BadArgument (Text × Char) :=
  match ls.words.find? (·.1 == t), ls.words.filter fun w => Text.startsWith t w.1 with
  | some w, _ => .ok w
  | none, [] => .error (.word ("--" ++ t))
  | none, w :: ws =>
    if ws.all (·.2 == w.2) then .ok w else .error (.ambiguous t ((w :: ws).map (·.1)))

/-- the option of a word after two dashes, and the arguments after it -/
def ofWord (ls : Letters) (t : Text) (more : List Text) :
    Except BadArgument ((Char × Text) × List Text) :=
  let name := t.takeWhile (· != '=')
  let value : Option Text := if name.length < t.length then some (t.drop (name.length + 1)) else none
  match letterOfWord ls name with
  | .error (.word _) => .error (.word ("--" ++ t))
  | .error (.ambiguous _ words) => .error (.ambiguous t words)
  | .error bad => .error bad
  | .ok (word, c) =>
    if ls.optional.contains c then .ok ((c, value.getD []), more)
    else match ls.valued.contains c, value, more with
      | true, some value, more => .ok ((c, value), more)
      | true, none, value :: more => .ok ((c, value), more)
      | true, none, [] => .error (.noWordValue word)
      | false, some _, _ => .error (.needlessValue word)
      | false, none, more => .ok ((c, []), more)

/-- the options and operands of arguments; each step uses up an argument -/
def ofWithin (ls : Letters) : Nat → List Text → Except BadArgument Arguments
  | 0, _ => .ok {}
  | _ + 1, [] => .ok {}
  | fuel + 1, a :: more =>
    match a with
    | ['-', '-'] => .ok { operands := more }
    | '-' :: '-' :: t => do
      let (option, more) ← ofWord ls t more
      let rest ← ofWithin ls fuel more
      pure { rest with options := option :: rest.options }
    | '-' :: c :: cs => do
      let (options, more) ← ofLetters ls (c :: cs) more
      let rest ← ofWithin ls fuel more
      pure { rest with options := options ++ rest.options }
    | _ => do
      let rest ← ofWithin ls fuel more
      pure { rest with operands := a :: rest.operands }

/-- the options and operands of arguments -/
def of (ls : Letters) (args : List Text) : Except BadArgument Arguments :=
  ofWithin ls args.length args

/-- the options in front of the first operand, and all that follows them; each step uses up an
argument -/
def ofFrontWithin (ls : Letters) : Nat → List Text → Except BadArgument Arguments
  | 0, args => .ok { operands := args }
  | fuel + 1, args =>
    match args with
    | ['-', '-'] :: more => .ok { operands := more }
    | ('-' :: '-' :: t) :: more => do
      let (option, more) ← ofWord ls t more
      let rest ← ofFrontWithin ls fuel more
      pure { rest with options := option :: rest.options }
    | ('-' :: c :: cs) :: more => do
      let (options, more) ← ofLetters ls (c :: cs) more
      let rest ← ofFrontWithin ls fuel more
      pure { rest with options := options ++ rest.options }
    | args => .ok { operands := args }

/-- the options in front of the first operand, and all that follows them -/
def ofFront (ls : Letters) (args : List Text) : Except BadArgument Arguments :=
  ofFrontWithin ls (args.length + 1) args

end Arguments

/-- a program whose arguments are options and operands -/
def withArguments (ls : Letters) (perform : Scene → Arguments → Bytes → Outcome) :
    Program := fun s args input =>
  match Arguments.of ls args with
  | .error bad => s.misuse bad.message input ls.failure
  | .ok a => perform s a input

/-! ## numbers with units -/

/-- the greatest size of anything -/
def greatestSize : Nat := 18446744073709551615

/-- why a text is no number: there is no number in front, something that is no unit follows it, or it is
too large -/
inductive AmountFault where
  | noNumber
  | noUnit
  | tooLarge
  deriving DecidableEq

/-- the letters of units with the powers that they stand for -/
def unitPowers : List (Char × Nat) := [('k', 1), ('K', 1), ('m', 2), ('M', 2), ('g', 3), ('G', 3), ('t', 4),
  ('T', 4), ('P', 5), ('E', 6), ('Z', 7), ('Y', 8)]

/-- the factor of a unit, of which the first letter is one of some letters; a nought among these allows
powers of 1000 -/
def unitFactor? (units unit : Text) : Option Nat :=
  match unit with
  | [] => some 1
  | c :: rest =>
    if !units.contains c then none
    else match unitPowers.lookup c, rest with
      | some p, [] => some (Nat.pow 1024 p)
      | some p, ['i', 'B'] => if units.contains '0' then some (Nat.pow 1024 p) else none
      | some p, [b] => if units.contains '0' && (b == 'B' || b == 'D') then some (Nat.pow 1000 p) else none
      | none, [] => ([('b', 512), ('B', 1024), ('c', 1), ('w', 2)] : List (Char × Nat)).lookup c
      | _, _ => none

/-- a number without a unit has the factor one -/
theorem unitFactor_nil (units : Text) : unitFactor? units [] = some 1 := rfl

/-- the base and the digits of a number; if any base is allowed, a nought in front tells of another -/
def baseAndDigits (anyBase : Bool) (t : Text) : Nat × Text :=
  match anyBase, t with
  | true, '0' :: 'x' :: c :: digits | true, '0' :: 'X' :: c :: digits =>
    if (Text.hexDigit? c).isSome then (16, c :: digits) else (8, t)
  | true, '0' :: _ => (8, t)
  | _, _ => (10, t)

/-- the number that a text means, with a unit of which the first letter is one of some letters -/
def amountOf (anyBase : Bool) (units : Text) (t : Text) : Except AmountFault Nat :=
  let t := t.dropWhile fun c => c == ' ' || ('\t' ≤ c && c ≤ '\r')
  let (base, t) := baseAndDigits anyBase (if t.head? = some '+' then t.drop 1 else t)
  let digits := t.takeWhile fun c => (Text.hexDigit? c).any (· < base)
  let unit := t.drop digits.length
  let isUnitAlone := unit.head?.any units.contains
  if digits.isEmpty && !isUnitAlone then .error .noNumber
  else match unitFactor? units unit with
    | none => .error .noUnit
    | some factor =>
      let n := if digits.isEmpty then 1
        else digits.foldl (fun n c => base * n + (Text.hexDigit? c).getD 0) 0
      if greatestSize < n * factor then .error .tooLarge else .ok (n * factor)

/-- a number between two others, with a unit of some letters, or what is wrong with the text for it -/
def boundedWith (units : Text) (what : Text) (least greatest : Nat) (t : Text) : Except Text Nat :=
  let bad : Text := what ++ ": '" ++ t ++ "'"
  match amountOf false units t with
  | .error .tooLarge => .error (bad ++ ": Value too large for defined data type")
  | .error _ => .error bad
  | .ok n =>
    if least ≤ n ∧ n ≤ greatest then .ok n
    else if n ≤ 1073741823 then .error (bad ++ ": Numerical result out of range")
    else .error (bad ++ ": Value too large for defined data type")

/-- a number between two others, or what is wrong with the text for it -/
def bounded (what : Text) (least greatest : Nat) (t : Text) : Except Text Nat :=
  boundedWith [] what least greatest t

/-! ## words of lists -/

/-- the word of a list that a text begins; words that mean the same stand in one row.  Otherwise what is
wrong with the value of an option -/
def chosenWord (option : Text) (rows : List (List Text)) (t : Text) : Except Text Text :=
  let first (row : List Text) : Text := row.headD []
  match rows.find? fun row => row.contains t, rows.filter fun row => row.any (Text.startsWith t) with
  | some row, _ | none, [row] => .ok (first row)
  | none, found =>
    let how : Text := if found.isEmpty then "invalid" else "ambiguous"
    let line (row : List Text) : Text :=
      "\n  - " ++ Text.joined [',', ' '] (row.map fun w => ['\''] ++ w ++ ['\''])
    .error (how ++ " argument '" ++ t ++ "' for '" ++ option ++ "'\nValid arguments are:"
      ++ rows.flatMap line)

end DatabaseTypes.Filter
