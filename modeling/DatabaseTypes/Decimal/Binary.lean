/-!
# Binary floating-point numbers of double precision

A number is a sign, a significand and an exponent of two, or infinite, or no number.  All
arithmetic is exact arithmetic on natural numbers followed by one rounding.

* `Binary64`              the numbers
* `Binary64.magnitude`    the absolute value as a quotient of natural numbers
* `roundedQuotient`       the nearest natural number to a quotient, a half to the even neighbour
* `Binary64.ofQuotient`   the nearest number to a quotient
* `Binary64.ofDecimal`    the nearest number to decimal digits with an exponent of ten
* `Binary64.ofInt`        the nearest number to an integer
-/

namespace DatabaseTypes

/-- a double-precision number; a finite one is `± significand · 2 ^ exponent` with a significand
below `2 ^ 53`, which is at least `2 ^ 52` unless the exponent is the least one, `-1074` -/
inductive Binary64 where
  | finite (negative : Bool) (significand : Nat) (exponent : Int)
  | infinite (negative : Bool)
  | notANumber
  deriving DecidableEq, Inhabited

/-! ## rounding -/

/-- the natural number nearest to `num / den`; a half goes to the even neighbour -/
def roundedQuotient (num den : Nat) : Nat :=
  let q := num / den
  let r := num % den
  if 2 * r < den then q
  else if den < 2 * r then q + 1
  else if q % 2 = 0 then q else q + 1

/-- `num / den` times a power of two, as a quotient -/
def scaledByTwo (num den : Nat) (e : Int) : Nat × Nat :=
  if 0 ≤ e then (num * Nat.pow 2 e.toNat, den) else (num, den * Nat.pow 2 (-e).toNat)

/-- `num / den` times a power of ten, as a quotient -/
def scaledByTen (num den : Nat) (e : Int) : Nat × Nat :=
  if 0 ≤ e then (num * Nat.pow 10 e.toNat, den) else (num, den * Nat.pow 10 (-e).toNat)

namespace Binary64

/-- the exponent of the smallest positive number -/
def leastExponent : Int := -1074

/-- the exponent of the largest finite numbers -/
def greatestExponent : Int := 971

/-- zero with a sign -/
def zero (negative : Bool) : Binary64 := .finite negative 0 leastExponent

/-- the integer part of the logarithm to base two of a positive quotient -/
def log2Quotient (num den : Nat) : Int :=
  let k : Int := (Nat.log2 num : Int) - (Nat.log2 den : Int)
  let (n, d) := scaledByTwo num den (-k)
  if d ≤ n then k else k - 1

/-- the number nearest to `± num / den`, a tie going to the even significand -/
def ofQuotient (negative : Bool) (num den : Nat) : Binary64 :=
  if num = 0 then zero negative
  else
    let e := max (log2Quotient num den - 52) leastExponent
    let (n, d) := scaledByTwo num den (-e)
    let m := roundedQuotient n d
    let (m, e) := if m = Nat.pow 2 53 then (Nat.pow 2 52, e + 1) else (m, e)
    if greatestExponent < e then .infinite negative else .finite negative m e

/-- the number nearest to `± digits · 10 ^ exponent`; exponents far outside the range of the
numbers give infinity or zero at once -/
def ofDecimal (negative : Bool) (digits : Nat) (exponent : Int) : Binary64 :=
  if digits = 0 then zero negative
  else
    let size : Int := (Nat.log2 digits : Int) * 30103 / 100000 + exponent
    if 330 < size then .infinite negative
    else if size < -345 then zero negative
    else
      let (n, d) := scaledByTen digits 1 exponent
      ofQuotient negative n d

/-- the number nearest to an integer -/
def ofInt (i : Int) : Binary64 := ofQuotient (i < 0) i.natAbs 1

/-! ## parts -/

/-- is the sign a minus? -/
def isNegative : Binary64 → Bool
  | .finite s _ _ => s
  | .infinite s => s
  | .notANumber => false

/-- zero of either sign -/
def isZero : Binary64 → Bool
  | .finite _ m _ => m == 0
  | _ => false

/-- the absolute value of a finite number as a quotient; zero for the others -/
def magnitude : Binary64 → Nat × Nat
  | .finite _ m e => scaledByTwo m 1 e
  | _ => (0, 1)

/-- the integer that a finite number equals, if it equals one -/
def toInt? : Binary64 → Option Int
  | .finite s m e =>
    let (n, d) := scaledByTwo m 1 e
    if n % d = 0 then some (if s then -((n / d : Nat) : Int) else ((n / d : Nat) : Int)) else none
  | _ => none

/-- is a number below zero? -/
def isBelowZero (x : Binary64) : Bool :=
  match x with
  | .finite s m _ => s && m != 0
  | .infinite s => s
  | .notANumber => false

/-- is the first number at most the second? No number compares with what is no number. -/
def atMost : Binary64 → Binary64 → Bool
  | .notANumber, _ => false
  | _, .notANumber => false
  | .infinite s, .infinite t => s || !t
  | .infinite s, _ => s
  | _, .infinite t => !t
  | .finite s m e, .finite t n f =>
    let (a, b) := scaledByTwo m 1 e
    let (c, d) := scaledByTwo n 1 f
    let x : Int := (if s then -1 else 1) * (a * d : Nat)
    let y : Int := (if t then -1 else 1) * (c * b : Nat)
    decide (x ≤ y)

end Binary64
end DatabaseTypes
