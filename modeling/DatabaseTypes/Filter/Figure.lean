import DatabaseTypes.Filter.Basic

/-!
# Figures

Numbers as formats read and write them.

* `Filter.WholeNumber.of`   the whole number at the front of a text, and what is wrong with it
* `Filter.Figure`           how a number is written: flags, width and places
* `Filter.Figure.written`   a text or a number in its column
-/

namespace DatabaseTypes.Filter

/-! ## reading -/

/-- what is wrong with a number -/
inductive NumberFault where
  | noNumber
  | moreFollows
  | outOfRange
  deriving DecidableEq

/-- the value of a digit in bases up to sixteen -/
def digitBelow? (base : Nat) (c : Char) : Option Nat := (Text.hexDigit? c).filter (· < base)

/-- the base of a number that is written with digits, and the digits -/
def basedDigits : Text → Nat × Text
  | '0' :: x :: t =>
    if (x == 'x' || x == 'X') && (t.head?.bind (digitBelow? 16)).isSome then (16, t) else (8, '0' :: x :: t)
  | t => if t.head? = some '0' then (8, t) else (10, t)

/-- the whole number at the front of a text, within bounds, and what is wrong with it: a quote stands
for the number of the character after it -/
def wholeNumber (least greatest : Int) (t : Text) : Int × Option NumberFault :=
  match t with
  | [] => (0, none)
  | ['\''] | ['"'] => (0, none)
  | '\'' :: c :: _ | '"' :: c :: _ => (((Text.toBytes [c]).headD 0).toNat, none)
  | t =>
    let (negative, u) := Decimal.sign (t.dropWhile fun c => c == ' ' || (9 ≤ c.toNat && c.toNat ≤ 13))
    let (base, digits) := basedDigits u
    let own := digits.takeWhile fun c => (digitBelow? base c).isSome
    let size : Int := (own.foldl (fun n c => base * n + (digitBelow? base c).getD 0) 0 : Nat)
    let value := if negative then -size else size
    if own.isEmpty then (0, some .noNumber)
    else if value < least then (least, some .outOfRange)
    else if greatest < value then (greatest, some .outOfRange)
    else (value, if own.length < digits.length then some .moreFollows else none)

/-- a number with places at the front of a text as a quotient, and what is wrong with it -/
def placedNumber (t : Text) : Bool × (Nat × Nat) × Option NumberFault :=
  let (negative, u) := Decimal.sign (t.dropWhile (· == ' '))
  let starts := (List.range (u.length + 1)).reverse.findSome? fun n =>
    (Decimal.parts? (u.take n)).map fun p => (p, n)
  match starts with
  | none => (false, (0, 1), if t.isEmpty then none else some .noNumber)
  | some ((digits, exponent), n) =>
    (negative, (Binary64.ofDecimal false digits exponent).magnitude, if n < u.length then some .moreFollows else none)

/-! ## writing -/

/-- how a text or a number is written: the flags, the width of its column, and its places -/
structure Figure where
  flags : Text := []
  width : Nat := 0
  places : Option Nat := none

namespace Figure

/-- a text in its column -/
def padded (f : Figure) (bytes : Bytes) : Bytes :=
  let gap := List.replicate (f.width - bytes.length) 32
  if f.flags.contains '-' then bytes ++ gap else gap ++ bytes

/-- a number in its column: sign, mark of the base, and digits -/
def signed (f : Figure) (front digits : Text) : Bytes :=
  let zeros := f.flags.contains '0' && !f.flags.contains '-' && f.places.isNone
  let digits := if zeros then Text.zeroPadded (f.width - front.length) digits else digits
  f.padded (front ++ digits).toBytes

/-- the sign of a number -/
def signOf (f : Figure) (negative : Bool) : Text :=
  if negative then ['-']
  else if f.flags.contains '+' then ['+']
  else if f.flags.contains ' ' then [' '] else []

/-- the digits of a number, as many at least as there are places -/
def wholeDigits (f : Figure) (digits : Text) : Text :=
  if f.places = some 0 && digits == ['0'] then [] else Text.zeroPadded (f.places.getD 1) digits

/-- a whole number with its sign -/
def whole (f : Figure) (n : Int) : Bytes :=
  f.signed (f.signOf (n < 0)) (f.wholeDigits (Text.ofNat n.natAbs))

/-- a number of sixty-four bits without a sign, in a base by its letter -/
def unsigned (f : Figure) (letter : Char) (n : Int) : Bytes :=
  let size := (n % (Nat.pow 2 64 : Nat)).toNat
  let base := if letter = 'o' then 8 else if letter = 'u' then 10 else 16
  let digits := Nat.toDigits base size
  let digits := f.wholeDigits (if letter = 'X' then digits.map Char.toUpper else digits)
  let marked := f.flags.contains '#' && size != 0
  if base = 8 then f.signed [] (if marked then '0' :: digits else digits)
  else f.signed (if marked && base == 16 then ['0', letter] else []) digits

/-- digits with a point before so many of them -/
def pointed (places : Nat) (n : Nat) : Text :=
  let digits := Text.zeroPadded (places + 1) (Text.ofNat n)
  digits.take (digits.length - places)
    ++ if places = 0 then [] else '.' :: digits.drop (digits.length - places)

/-- a quotient with places -/
def fixed (places : Nat) (q : Nat × Nat) : Text :=
  pointed places (roundedQuotient (q.1 * Nat.pow 10 places) q.2)

/-- the number of digits before the point of a quotient, less one, found from a guess upwards -/
def leadFrom (q : Nat × Nat) : Nat → Int → Int
  | 0, e => e
  | fuel + 1, e =>
    let (n, d) := scaledByTen q.1 q.2 (-(e + 1))
    if d ≤ n then leadFrom q fuel (e + 1) else e

/-- the exponent of ten of a quotient that is rounded to places after the first digit, and its digits -/
def scientific (places : Nat) (q : Nat × Nat) : Nat × Int :=
  if q.1 = 0 then (0, 0)
  else
    let bits := Nat.log2 q.1 + Nat.log2 q.2 + 2
    let e := leadFrom q (2 * bits) (-(bits : Int))
    let (n, d) := scaledByTen q.1 q.2 (places - e)
    let m := roundedQuotient n d
    if m < Nat.pow 10 (places + 1) then (m, e) else (m / 10, e + 1)

/-- an exponent with a sign and at least two digits -/
def exponent (letter : Char) (e : Int) : Text :=
  letter :: (if e < 0 then '-' else '+') :: Text.zeroPadded 2 (Text.ofNat e.natAbs)

/-- a text with a point without the zeros at its end -/
def withoutEndZeros (t : Text) : Text :=
  if t.contains '.' then
    let u := (t.reverse.dropWhile (· == '0')).reverse
    if u.getLast? = some '.' then u.dropLast else u
  else t

/-- a quotient as a letter asks for it: with places, with an exponent, or in the shorter of the two
ways -/
def placed (f : Figure) (letter : Char) (negative : Bool) (q : Nat × Nat) : Bytes :=
  let places := f.places.getD 6
  let lower := letter.toLower
  let digits : Text :=
    if lower = 'f' then fixed places q
    else if lower = 'e' then
      let (m, e) := scientific places q
      pointed places m ++ exponent letter e
    else
      let count := max places 1
      let (m, e) := scientific (count - 1) q
      if -4 ≤ e ∧ e < count then withoutEndZeros (fixed ((count : Int) - 1 - e).toNat q)
      else withoutEndZeros (pointed (count - 1) m)
        ++ exponent (if letter = 'g' then 'e' else 'E') e
  { f with places := none }.signed (f.signOf negative) digits

end Figure
end DatabaseTypes.Filter
