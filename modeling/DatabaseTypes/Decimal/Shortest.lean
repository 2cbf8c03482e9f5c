import DatabaseTypes.Text.Basic
import DatabaseTypes.Decimal.Binary

/-!
# The shortest decimal of a number

* `Binary64.Interval`       the decimals that round to a number
* `Binary64.shortest`       the fewest digits that round to a number, the nearest of them
* `Binary64.text`           the display: positional while the point is near the digits
* `Binary64.fixedText`      a fixed number of decimal places
-/

namespace DatabaseTypes.Binary64

/-! ## the interval that rounds to a number -/

/-- bounds `low / unit` and `high / unit` around `value / unit`; `closed` tells whether the bounds
themselves round to the value -/
structure Interval where
  low : Nat
  value : Nat
  high : Nat
  unit : Nat
  closed : Bool

/-- the decimals that round to `m · 2 ^ e`: half a unit up and half a unit down, only a quarter
down at a power of two, where the numbers below lie closer -/
def interval (m : Nat) (e : Int) : Interval :=
  let down := if m = Nat.pow 2 52 ∧ leastExponent < e then 1 else 2
  let (scale, unit) := scaledByTwo 1 4 e
  { low := (4 * m - down) * scale, value := 4 * m * scale, high := (4 * m + 2) * scale
    unit := unit, closed := m % 2 = 0 }

/-- does `digits · 10 ^ exponent` lie in the interval? -/
def Interval.includes (i : Interval) (digits : Nat) (exponent : Int) : Bool :=
  let (n, d) := scaledByTen digits 1 exponent
  let x := n * i.unit
  if i.closed then i.low * d ≤ x && x ≤ i.high * d else i.low * d < x && x < i.high * d

/-! ## digits -/

/-- the least `p`, not below `start`, with `num / den < 10 ^ p`, looking at `tries` of them -/
def pointFrom (num den : Nat) : Nat → Int → Int
  | 0, start => start
  | tries + 1, start =>
    let (n, d) := scaledByTen num den (-start)
    if n < d then start else pointFrom num den tries (start + 1)

/-- the place of the decimal point of a positive quotient: the least `p` with `num / den < 10 ^ p` -/
def point (num den : Nat) : Int :=
  pointFrom num den 4 (log2Quotient num den * 30103 / 100000 - 1)

/-- the nearest of the two neighbours of the value on the grid of `10 ^ exponent` that round to it;
of two equally near ones the even one -/
def onGrid? (i : Interval) (exponent : Int) : Option Nat :=
  let (n, d) := scaledByTen i.value i.unit (-exponent)
  let below := n / d
  let nearest := roundedQuotient n d
  let other := if nearest = below then below + 1 else below
  if 0 < nearest ∧ i.includes nearest exponent then some nearest
  else if 0 < other ∧ i.includes other exponent then some other
  else none

/-- the first grid, from one digit on, with a decimal that rounds to the value -/
def shortestFrom (i : Interval) (p : Int) : Nat → Nat → Nat × Int
  | 0, count => ((onGrid? i (p - count)).getD 0, p - count)
  | more + 1, count => match onGrid? i (p - count) with
    | some digits => (digits, p - count)
    | none => shortestFrom i p more (count + 1)

/-- the digits and the exponent of ten of the shortest decimal that rounds to `m · 2 ^ e` -/
def shortest (m : Nat) (e : Int) : Nat × Int :=
  let i := interval m e
  shortestFrom i (point i.value i.unit) 17 1

/-! ## display -/

/-- a sign for an exponent, and at least two digits -/
def exponentText (e : Int) : Text :=
  (if e < 0 then '-' else '+') :: Text.zeroPadded 2 (Text.ofNat e.natAbs)

/-- digits with the decimal point after the first `p` of them: positional from `10 ^ -4` up to
`10 ^ 16`, and always with a point, otherwise with an exponent -/
def pointedText (digits : Text) (p : Int) : Text :=
  if -4 < p ∧ p ≤ 0 then "0." ++ List.replicate (-p).toNat '0' ++ digits
  else if 0 < p ∧ p ≤ 16 then
    let whole := digits.take p.toNat
    let rest := digits.drop p.toNat
    whole ++ List.replicate (p.toNat - digits.length) '0' ++ ['.']
      ++ (if rest.isEmpty then ['0'] else rest)
  else
    let rest := digits.drop 1
    digits.take 1 ++ (if rest.isEmpty then [] else '.' :: rest) ++ ['e'] ++ exponentText (p - 1)

/-- digits without the zeros at their end -/
def withoutZeros (digits : Text) : Text := (digits.reverse.dropWhile (· == '0')).reverse

/-- the display of a number: the shortest decimal that rounds to it -/
def text : Binary64 → Text
  | .notANumber => "nan"
  | .infinite s => if s then "-inf" else "inf"
  | .finite s m e =>
    let sign : Text := if s then ['-'] else []
    if m = 0 then sign ++ "0.0"
    else
      let (digits, exponent) := shortest m e
      let all := Text.ofNat digits
      sign ++ pointedText (withoutZeros all) (all.length + exponent)

/-- the number with `places` decimal places, a half going to the even neighbour -/
def fixedText (places : Nat) (x : Binary64) : Text :=
  match x with
  | .notANumber => "nan"
  | .infinite s => if s then "-inf" else "inf"
  | .finite s m e =>
    let (n, d) := scaledByTwo m 1 e
    let digits := Text.zeroPadded (places + 1) (Text.ofNat (roundedQuotient (n * Nat.pow 10 places) d))
    let whole := digits.take (digits.length - places)
    (if s then ['-'] else []) ++ whole
      ++ (if places = 0 then [] else '.' :: digits.drop (digits.length - places))

end DatabaseTypes.Binary64
