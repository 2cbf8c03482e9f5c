import DatabaseTypes.Calendar
import DatabaseTypes.Decimal.Arithmetic
import DatabaseTypes.Decimal.Reading
import DatabaseTypes.Text.Case
import DatabaseTypes.Yaml.Tag

/-!
# Numbers and times of a settings file

Underscores in numbers mean nothing.  A tag can ask for a number that a text does not hold, which is
a fault.

* `Yaml.readInt`      an integer in any of its notations
* `Yaml.readFloat`    a floating-point number
* `Yaml.readTime`     a date or a time
* `Yaml.readBytes`    bytes written in base 64
-/

namespace DatabaseTypes.Yaml

/-! ## integers -/

/-- the digits of a literal without white space around them, its sign, and the mark of its base -/
def integerDigits (base : Nat) (t : Text) : Bool × Text :=
  let (negative, digits) := Decimal.sign (Binary64.unpadded (Text.inAscii t))
  let lower := Text.lowerLetters digits
  let mark? : Option Text :=
    if base = 2 then some "0b" else if base = 8 then some "0o" else if base = 16 then some "0x" else none
  (negative, (mark?.bind fun m => Text.after? m lower).getD lower)

/-- the integer of a literal in a base; too many decimal digits are not even looked at -/
def integerOf (base : Nat) (t : Text) : Except Fault Int :=
  let (negative, digits) := integerDigits base t
  let digit (c : Char) : Option Nat := (Text.hexDigit? c).filter (· < base)
  let count := (digits.takeWhile Text.isDigit).length
  if base = 10 ∧ Limit.digits < count then .error (.beyond (.digitsRead count))
  else match digits, digits.mapM digit with
    | _ :: _, some ds =>
      let n := ds.foldl (fun n d => n * base + d) 0
      .ok (if negative then -(n : Int) else n)
    | _, _ => .error (.notInteger base t)

/-- the sign of a number and what follows it; there must be something -/
def signed (t : Text) : Except Fault (Bool × Text) :=
  if t.isEmpty then .error .emptyNumber else .ok (Decimal.sign t)

/-- an integer in base sixty, its parts separated by colons -/
def sixtieths (parts : List Text) : Except Fault Int := do
  let ns ← parts.mapM (integerOf 10)
  pure (ns.foldl (fun n d => 60 * n + d) 0)

/-- an unsigned integer in any notation -/
def unsignedInt (t : Text) : Except Fault Int :=
  if let some digits := Text.after? "0b" t then integerOf 2 digits
  else if let some digits := Text.after? "0x" t then integerOf 16 digits
  else match t with
    | [] => .error .emptyNumber
    | ['0'] => .ok 0
    | '0' :: _ => integerOf 8 t
    | _ => if t.contains ':' then sixtieths (Text.split ':' t) else integerOf 10 t

/-- an integer -/
def readInt (t : Text) : Except Fault Int := do
  let (negative, digits) ← signed (t.filter (· != '_'))
  let n ← unsignedInt digits
  pure (if negative then -n else n)

/-! ## floating-point numbers -/

/-- the number of a literal -/
def floatOf (t : Text) : Except Fault Binary64 :=
  match Binary64.ofNumeral? t with
  | some x => .ok x
  | none => .error (.notNumber t)

/-- a number in base sixty, its parts separated by colons; the last part is added first, and every
step is rounded -/
def floatSixtieths (parts : List Text) : Except Fault Binary64 := do
  let xs ← parts.mapM floatOf
  let (sum, _) ← xs.reverse.foldlM (fun (sum, scale) x => do
    match Binary64.ofInt scale with
    | .infinite _ => throw .tooLargeForFloat
    | s => pure (sum.plus (x.times s), 60 * scale)) (Binary64.zero false, (1 : Int))
  pure sum

/-- an unsigned floating-point number; not being a number has no sign -/
def unsignedFloat (t : Text) : Except Fault Binary64 :=
  if t = ".inf" then .ok (.infinite false)
  else if t = ".nan" then .ok .notANumber
  else if t.contains ':' then floatSixtieths (Text.split ':' t)
  else floatOf t

/-- is a text the word for what is no number? -/
def isNoNumberWord (t : Text) : Bool :=
  let digits := Text.lowered (t.filter (· != '_'))
  digits = ".nan" ∨ digits = "-.nan" ∨ digits = "+.nan"

/-- a floating-point number -/
def readFloat (t : Text) : Except Fault Binary64 := do
  let (negative, digits) ← signed (Text.lowered (t.filter (· != '_')))
  let x ← unsignedFloat digits
  pure (if negative then x.negated else x)

/-! ## dates and times -/

/-- a date, or a time on a date -/
inductive DateOrMoment where
  | date (d : Date)
  | moment (m : Moment)

/-- millionths of a second of decimal places -/
def microseconds (fraction : Text) : Nat :=
  let digits := fraction.take 6
  Decimal.digitsValue (digits ++ List.replicate (6 - digits.length) '0')

/-- the minutes of an offset -/
def offsetMinutes (zone : Bool × Text × Text) : Int :=
  let (negative, hours, minutes) := zone
  let n : Int := Decimal.digitsValue hours * 60 + Decimal.digitsValue minutes
  if negative then -n else n

/-- the date or time of its parts -/
def timeOfParts (p : TimeParts) : Except CalendarFault DateOrMoment :=
  let n := Decimal.digitsValue
  match p.clock with
  | none => (Date.ofParts? (n p.year) (n p.month) (n p.day)).map .date
  | some (hour, minute, second) =>
    (Moment.ofParts? (n p.year) (n p.month) (n p.day) (n hour) (n minute) (n second)
      (microseconds p.fraction) (p.zone.map offsetMinutes)).map .moment

/-- a date or a time; a line feed at the end is overlooked -/
def readTime (t : Text) : Except Fault DateOrMoment :=
  match timeParts? t.withoutFinalBreak with
  | none => .error (.lacks .null "groupdict")
  | some p => (timeOfParts p).mapError .calendar

/-! ## bytes -/

/-- the six bits of a digit of base 64 -/
def sixBits? (c : Char) : Option Nat :=
  if 'A' ≤ c ∧ c ≤ 'Z' then some (c.toNat - 'A'.toNat)
  else if 'a' ≤ c ∧ c ≤ 'z' then some (c.toNat - 'a'.toNat + 26)
  else if Text.isDigit c then some (c.toNat - '0'.toNat + 52)
  else if c = '+' then some 62
  else if c = '/' then some 63
  else none

/-- the bytes of digits of base 64, with `count` digits of a group of four behind us, whose bits
that are left over are `bits`, and with `pads` signs of padding just behind us; other characters
mean nothing -/
def bytesFrom (count bits pads : Nat) : Text → Option Bytes
  | [] => if count = 0 then some [] else none
  | c :: t =>
    if c = '=' then
      if 2 ≤ count ∧ 4 ≤ count + pads + 1 then some []
      else bytesFrom count bits (if 2 ≤ count then pads + 1 else pads) t
    else match sixBits? c with
      | none => bytesFrom count bits pads t
      | some n =>
        match count with
        | 0 => bytesFrom 1 n 0 t
        | 1 => (bytesFrom 2 (n % 16) 0 t).map (UInt8.ofNat (4 * bits + n / 16) :: ·)
        | 2 => (bytesFrom 3 (n % 4) 0 t).map (UInt8.ofNat (16 * bits + n / 4) :: ·)
        | _ => (bytesFrom 0 0 0 t).map (UInt8.ofNat (64 * bits + n) :: ·)

/-- bytes written in base 64; the text must be ASCII -/
def readBytes (t : Text) : Option Bytes :=
  if t.all fun c => c.toNat < 128 then bytesFrom 0 0 0 t else none

end DatabaseTypes.Yaml
