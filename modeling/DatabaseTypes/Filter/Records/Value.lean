import DatabaseTypes.Decimal.Arithmetic
import DatabaseTypes.Filter.Figure
import DatabaseTypes.Filter.Records.Likeness

/-!
# Values of records

A value is a number or a text; a text from the input counts as a number if it looks like one.

* `Filter.Records.Value`           the values
* `Filter.Records.Value.number`    a value as a number
* `Filter.Records.Value.text`      a value as a text
* `Filter.Records.Value.stands`    how a value stands to another
* `Filter.Records.formatted`       values in a format
-/

namespace DatabaseTypes.Filter.Records

/-- a value: nothing yet, a number, a text, or a text from the input -/
inductive Value where
  | unset
  | number (x : Binary64)
  | text (t : Text)
  | input (t : Text)
  deriving Inhabited

/-! ## numbers -/

/-- the number of hexadecimal digits at the front of a text after its mark, and what follows it -/
def leadingHex? : Text → Option (Nat × Text)
  | '0' :: x :: t =>
    let digits := t.takeWhile fun c => (Text.hexDigit? c).isSome
    if (x = 'x' ∨ x = 'X') ∧ digits ≠ [] then
      some (digits.foldl (fun n c => 16 * n + (Text.hexDigit? c).getD 0) 0, t.drop digits.length)
    else none
  | _ => none

/-- the value by a name at the front of a text, in either case of its letters, and what follows it -/
def leadingName? (negative : Bool) (t : Text) : Option (Binary64 × Text) :=
  let starts (name : Text) : Bool := (t.take name.length).map Char.toLower == name
  if starts "infinity" then some (.infinite negative, t.drop 8)
  else if starts "inf" then some (.infinite negative, t.drop 3)
  else if starts "nan" then some (.notANumber, t.drop 3)
  else none

/-- the number at the front of a text, and what follows it; there is none without a digit or a name -/
def leadingFigure? (t : Text) : Option (Binary64 × Text) :=
  let (negative, u) := Decimal.sign t
  match leadingHex? u, numberLength u with
  | some (n, rest), _ => some (.ofQuotient negative n 1, rest)
  | none, 0 => leadingName? negative u
  | none, n => (Decimal.parts? (u.take n)).map fun (digits, exponent) =>
    (.ofDecimal negative digits exponent, u.drop n)

/-- the number at the front of a text, or zero -/
def figureOf (t : Text) : Binary64 :=
  ((leadingFigure? (t.dropWhile fun c => c == ' ' || ('\t' ≤ c && c ≤ '\r'))).map (·.1)).getD (.zero false)

/-- the number that a text is, between blanks; it starts and ends like one -/
def wholeFigure? (t : Text) : Option Binary64 :=
  let u := ((t.dropWhile isFieldBlank).reverse.dropWhile isFieldBlank).reverse
  let starts (c : Char) : Bool := Text.isDigit c || c == '+' || c == '-' || c == '.'
  let ends (c : Char) : Bool := Text.isDigit c || c == '.'
  if (u.head?.map starts).getD false && (u.getLast?.map ends).getD false then
    match leadingFigure? u with
    | some (x, []) => some x
    | _ => none
  else none

/-- the integer that a number is without its places, within sixty-four bits -/
def wholePart (x : Binary64) : Int :=
  let bound : Int := (Nat.pow 2 63 - 1 : Nat)
  match x with
  | .infinite negative => if negative then -bound else bound
  | .notANumber => -bound
  | x => max (-bound) (min bound (x.truncated.toInt?.getD 0))

/-- the value of a truth -/
def Value.ofBool (b : Bool) : Value := .number (.ofInt (if b then 1 else 0))

/-- the value of a natural number -/
def Value.ofNat (n : Nat) : Value := .number (.ofInt n)

/-! ## formats -/

/-- a number by a letter, in its column -/
def figureText (f : Figure) (letter : Char) (x : Binary64) : Text :=
  let named (t : Text) : Text :=
    asText ({ f with flags := f.flags.filter (· != '0') }.padded (f.signOf x.isNegative ++ t).toBytes)
  match x with
  | .notANumber => named "-nan"
  | .infinite _ => named "inf"
  | x => asText (f.placed letter x.isNegative x.magnitude)

/-- why values are not in a format: there are not enough of them, or a directive is none -/
inductive FormatFault where
  | tooFew
  | improper (n : Nat)
  deriving DecidableEq

/-- a format that is being filled: what is written, the values that are left, and the number of the
directive -/
structure Filled where
  written : Text := []
  values : List Value
  number : Nat := 1

/-- a number in a directive, which may come from the values, and what follows it -/
def Filled.amount (number : Value → Binary64) (f : Filled) (t : Text) :
    Except FormatFault (Option Int × Text × Filled) :=
  match t with
  | '*' :: rest => match f.values with
    | [] => .error .tooFew
    | v :: vs => .ok (some (wholePart (number v)), rest, { f with values := vs })
  | t =>
    let digits := t.takeWhile Text.isDigit
    .ok ((count? digits).map fun n => (n : Int), t.drop digits.length, f)

/-- the letters of directives -/
def directiveLetters : Text := "dioxXucsfFeEgG"

/-- values as they are turned into numbers and texts -/
structure Reading where
  number : Value → Binary64
  text : Value → Text

/-- a value by a letter -/
def Reading.shown (r : Reading) (f : Figure) (letter : Char) (v : Value) : Text :=
  let cut (t : Text) : Text := (f.places.map fun n => t.take n).getD t
  if letter = 's' then asText (f.padded (asBytes (cut (r.text v))))
  else if letter = 'c' then
    let c : Char := match v with
      | .number x => Char.ofNat (wholePart x % 256).toNat
      | v => (r.text v).headD '\x00'
    asText (f.padded (asBytes [c]))
  else if letter = 'd' ∨ letter = 'i' then asText (f.whole (wholePart (r.number v)))
  else if ("oxXu".toList).contains letter then
    asText (f.unsigned letter (wholePart (r.number v)))
  else figureText f letter (r.number v)

/-- a directive after its sign, filled, and what follows it -/
def Reading.directive (r : Reading) (f : Filled) (t : Text) : Except FormatFault (Filled × Text) := do
  if f.values.isEmpty then throw .tooFew
  let flags := t.takeWhile ("-+ #0".toList).contains
  let (width, t, f) ← f.amount r.number (t.drop flags.length)
  let (places, t, f) ← match t with
    | '.' :: t => do
      let (n, t, f) ← f.amount r.number t
      pure (some (n.getD 0), t, f)
    | t => pure (none, t, f)
  let width := width.getD 0
  let figure : Figure := {
    flags := if width < 0 then '-' :: flags else flags, width := width.natAbs
    places := places.bind fun n => if n < 0 then none else some n.toNat }
  match t.dropWhile ("hl".toList).contains with
  | [] => throw (.improper f.number)
  | letter :: rest =>
    if !directiveLetters.contains letter then throw (.improper f.number)
    match f.values with
    | [] => throw .tooFew
    | v :: vs =>
      pure ({ written := (r.shown figure letter v).reverse ++ f.written, values := vs
              number := f.number + 1 }, rest)

/-- a format filled from some place on; what is written has its last character first.  Each step uses up
a character. -/
def Reading.fill (r : Reading) : Nat → Filled → Text → Text × Option FormatFault
  | 0, f, _ | _ + 1, f, [] => (f.written, none)
  | fuel + 1, f, c :: t =>
    if c != '%' then fill r fuel { f with written := c :: f.written } t
    else match t with
      | '%' :: rest => fill r fuel { f with written := '%' :: f.written } rest
      | t => match r.directive f t with
        | .ok (f, rest) => fill r fuel f rest
        | .error fault => (f.written, some fault)

/-- values in a format, and why they are not if they are not -/
def Reading.formatted (r : Reading) (format : Text) (values : List Value) : Text × Option FormatFault :=
  let (t, fault) := r.fill format.length { values } format
  (t.reverse, fault)

/-! ## values -/

namespace Value

/-- a value as a number -/
def toNumber : Value → Binary64
  | .unset => .zero false
  | .number x => x
  | .text t | .input t => figureOf t

/-- a number as a text: an integer in full, and others in a format -/
def numberText (format : Text) (x : Binary64) : Text :=
  match x.toInt? with
  | some i =>
    if i.natAbs < Nat.pow 2 63 then Text.ofInt i else other
  | none => other
where
  /-- a number in the format -/
  other : Text :=
    let r : Reading := { number := toNumber, text := fun _ => [] }
    (r.formatted format [.number x]).1

/-- a value as a text; `format` is that of numbers with places -/
def toText (format : Text) : Value → Text
  | .unset => []
  | .number x => numberText format x
  | .text t | .input t => t

/-- the number that a value is, if it counts as one -/
def asNumber? : Value → Option Binary64
  | .unset => some (.zero false)
  | .number x => some x
  | .text _ => none
  | .input t => wholeFigure? t

/-- does a value count as true? -/
def isTrue : Value → Bool
  | .unset => false
  | .number x => !x.isZero
  | .text t => !t.isEmpty
  | .input t => match wholeFigure? t with
    | some x => !x.isZero
    | none => !t.isEmpty

/-- how a value stands to another: as numbers if both count as such, otherwise as texts; numbers are equal
if neither is below the other -/
def stands (format : Text) (r : Relation) (v w : Value) : Bool :=
  let holds (below equal : Bool) : Bool := match r with
    | .below => below
    | .atMost => below || equal
    | .equal => equal
    | .unequal => !equal
    | .above => !below && !equal
    | .atLeast => !below
  match v.asNumber?, w.asNumber? with
  | some x, some y => holds (x.below y) (!x.below y && !y.below x)
  | _, _ =>
    let s := v.toText format
    let t := w.toText format
    holds (s.atMost t && s != t) (s == t)

/-- a text stands to itself as its equal -/
theorem stands_equal_text (format t : Text) : stands format .equal (.text t) (.text t) = true := by
  simp [stands, asNumber?, toText]

end Value

/-- the number that two others make -/
def Operator.applied (o : Operator) (x y : Binary64) : Binary64 :=
  match o with
  | .add => x.plus y
  | .subtract => x.minus y
  | .multiply => x.times y
  | .divide => x.divided y
  | .remainder => x.remainder y
  | .power => Binary64.throughTwo Float.pow x y

end DatabaseTypes.Filter.Records
