import DatabaseTypes.Decimal.Binary

/-!
# Arithmetic of floating-point numbers

Every operation is exact arithmetic followed by one rounding.

* `Binary64.negated`   the other sign
* `Binary64.plus`, `Binary64.minus`      a sum and a difference
* `Binary64.times`, `Binary64.divided`   a product and a quotient
* `Binary64.remainder`   what is left of a number after a whole number of others
* `Binary64.truncated`   a number without its places
* `Binary64.code`, `Binary64.ofCode`   a number as sixty-four bits
-/

namespace DatabaseTypes.Binary64

/-! ## sums and products -/

/-- the other sign -/
def negated : Binary64 → Binary64
  | .finite negative significand exponent => .finite (!negative) significand exponent
  | .infinite negative => .infinite (!negative)
  | .notANumber => .notANumber

theorem negated_negated (x : Binary64) : x.negated.negated = x := by
  cases x <;> simp [negated]

/-- a finite number as a quotient of an integer and a power of two -/
def quotient (x : Binary64) : Int × Nat :=
  let (num, den) := x.magnitude
  (if x.isNegative then -(num : Int) else num, den)

/-- the sum of two numbers; a sum of zero is negative only if both numbers are -/
def plus (x y : Binary64) : Binary64 :=
  match x, y with
  | .finite .., .finite .. =>
    let (a, b) := x.quotient
    let (p, q) := y.quotient
    let num := a * q + p * b
    if num = 0 then zero (x.isNegative && y.isNegative) else ofQuotient (num < 0) num.natAbs (b * q)
  | .notANumber, _ => .notANumber
  | _, .notANumber => .notANumber
  | .infinite s, .infinite t => if s = t then .infinite s else .notANumber
  | .infinite s, _ => .infinite s
  | _, .infinite s => .infinite s

/-- the product of two numbers; nothing is the product of infinity and zero -/
def times (x y : Binary64) : Binary64 :=
  let negative := x.isNegative != y.isNegative
  match x, y with
  | .finite .., .finite .. =>
    let (a, b) := x.magnitude
    let (p, q) := y.magnitude
    ofQuotient negative (a * p) (b * q)
  | .notANumber, _ => .notANumber
  | _, .notANumber => .notANumber
  | _, _ => if x.isZero || y.isZero then .notANumber else .infinite negative

/-! ## quotients and remainders -/

/-- the difference of two numbers -/
def minus (x y : Binary64) : Binary64 := x.plus y.negated

/-- the quotient of two numbers; a number over zero is infinite, and zero over zero is none -/
def divided (x y : Binary64) : Binary64 :=
  let negative := x.isNegative != y.isNegative
  match x, y with
  | .finite .., .finite .. =>
    let (a, b) := x.magnitude
    let (p, q) := y.magnitude
    if p = 0 then if a = 0 then .notANumber else .infinite negative
    else ofQuotient negative (a * q) (b * p)
  | .notANumber, _ | _, .notANumber | .infinite _, .infinite _ => .notANumber
  | .infinite _, _ => .infinite negative
  | _, .infinite _ => zero negative

/-- what is left of a number after a whole number of others, with the sign of the number -/
def remainder (x y : Binary64) : Binary64 :=
  match x, y with
  | .finite .., .finite .. =>
    let (a, b) := x.magnitude
    let (p, q) := y.magnitude
    if p = 0 then .notANumber else ofQuotient x.isNegative (a * q % (p * b)) (b * q)
  | .finite .., .infinite _ => x
  | _, _ => .notANumber

/-- a number without its places -/
def truncated : Binary64 → Binary64
  | .finite s m e =>
    let (n, d) := scaledByTwo m 1 e
    ofQuotient s (n / d) 1
  | x => x

/-- is the first number below the second? -/
def below (x y : Binary64) : Bool := x.atMost y && !y.atMost x

/-- nothing is below itself -/
theorem below_self (x : Binary64) : x.below x = false := by simp [below]

/-- a number as sixty-four bits: the sign, eleven bits of the exponent, and the rest of the significand -/
def code : Binary64 → Nat
  | .finite s m e =>
    let front := if s then Nat.pow 2 63 else 0
    if m < Nat.pow 2 52 then front + m
    else front + (e + 1075).toNat * Nat.pow 2 52 + (m - Nat.pow 2 52)
  | .infinite s => (if s then Nat.pow 2 63 else 0) + 2047 * Nat.pow 2 52
  | .notANumber => 4095 * Nat.pow 2 51

/-- the number of sixty-four bits -/
def ofCode (n : Nat) : Binary64 :=
  let s := n / Nat.pow 2 63 % 2 == 1
  let e := n / Nat.pow 2 52 % 2048
  let m := n % Nat.pow 2 52
  if e = 2047 then if m = 0 then .infinite s else .notANumber
  else if e = 0 then .finite s m leastExponent
  else .finite s (m + Nat.pow 2 52) ((e : Int) - 1075)

/-- a function of numbers of the machine as a function of numbers -/
def through (f : Float → Float) (x : Binary64) : Binary64 :=
  ofCode (f (Float.ofBits (UInt64.ofNat x.code))).toBits.toNat

/-- a function of two numbers of the machine as a function of two numbers -/
def throughTwo (f : Float → Float → Float) (x y : Binary64) : Binary64 :=
  ofCode (f (Float.ofBits (UInt64.ofNat x.code)) (Float.ofBits (UInt64.ofNat y.code))).toBits.toNat

end DatabaseTypes.Binary64
