import DatabaseTypes.Decimal.Binary
import DatabaseTypes.Text.Lines

/-!
# Reading numbers

* `Text.inAscii`            a numeral of any script with ASCII digits and spaces
* `Decimal.parts?`         whole part, decimal places and exponent of a decimal number
* `Binary64.ofNumeral?`     the number of a text in the digits of any script
* `Binary64.ofSpacedText?`  the number of a text in ASCII, perhaps with single underscores in it

All of them accept the names of infinity and of what is no number.
-/

namespace DatabaseTypes

/-! ## numerals of all scripts -/

namespace Text

/-- the zeros beyond ASCII; each is the first of ten digits -/
def zeros : List Nat :=
  [0x660, 0x6f0, 0x7c0, 0x966, 0x9e6, 0xa66, 0xae6, 0xb66, 0xbe6, 0xc66, 0xce6, 0xd66, 0xde6,
   0xe50, 0xed0, 0xf20, 0x1040, 0x1090, 0x17e0, 0x1810, 0x1946, 0x19d0, 0x1a80, 0x1a90, 0x1b50,
   0x1bb0, 0x1c40, 0x1c50, 0xa620, 0xa8d0, 0xa900, 0xa9d0, 0xa9f0, 0xaa50, 0xabf0, 0xff10,
   0x104a0, 0x10d30, 0x11066, 0x110f0, 0x11136, 0x111d0, 0x112f0, 0x11450, 0x114d0, 0x11650,
   0x116c0, 0x11730, 0x118e0, 0x11950, 0x11c50, 0x11d50, 0x11da0, 0x16a60, 0x16ac0, 0x16b50,
   0x1d7ce, 0x1d7d8, 0x1d7e2, 0x1d7ec, 0x1d7f6, 0x1e140, 0x1e2f0, 0x1e950, 0x1fbf0]

/-- the ASCII digit that a digit of another script stands for -/
def digit? (c : Char) : Option Char :=
  (zeros.find? fun z => z ≤ c.toNat && c.toNat < z + 10).map fun z => Nat.digitChar (c.toNat - z)

/-- a character of a numeral in ASCII; what has no part in a numeral becomes a question mark -/
def numeralChar (c : Char) : Char :=
  if c.toNat < 127 then c
  else if isBlank c then ' '
  else (digit? c).getD '?'

/-- a numeral with its digits and white space in ASCII -/
def inAscii (t : Text) : Text := t.map numeralChar

theorem length_inAscii (t : Text) : (inAscii t).length = t.length := List.length_map _

/-- a text of printable ASCII stays as it is -/
theorem inAscii_of_ascii (t : Text) (h : ∀ c ∈ t, c.toNat < 127) : inAscii t = t := by
  induction t with
  | nil => rfl
  | cons c t ih =>
    have hc : c.toNat < 127 := h c (by simp)
    have ht := ih fun d hd => h d (by simp [hd])
    simp only [inAscii, List.map_cons] at ht ⊢
    rw [ht, numeralChar, if_pos hc]

end Text

/-! ## numbers -/

namespace Decimal

/-- the digits at the front, and what follows them -/
def spanDigits (t : Text) : Text × Text := (t.takeWhile Text.isDigit, t.dropWhile Text.isDigit)

/-- the value of decimal digits -/
def digitsValue (t : Text) : Nat := t.foldl (fun n c => n * 10 + (c.toNat - '0'.toNat)) 0

/-- a sign at the front -/
def sign : Text → Bool × Text
  | '-' :: t => (true, t)
  | '+' :: t => (false, t)
  | t => (false, t)

/-- the exponent that makes up a whole text; none is zero -/
def exponent? : Text → Option Int
  | [] => some 0
  | c :: t =>
    if c = 'e' ∨ c = 'E' then
      let (negative, digits) := sign t
      if digits.isEmpty ∨ !digits.all Text.isDigit then none
      else some (if negative then -(digitsValue digits : Int) else (digitsValue digits : Int))
    else none

/-- the digits of an unsigned decimal number and its exponent of ten; there must be a digit before
or after the point -/
def parts? (t : Text) : Option (Nat × Int) :=
  let (whole, rest) := spanDigits t
  let (places, rest) := match rest with
    | '.' :: u => spanDigits u
    | u => ([], u)
  if whole.isEmpty ∧ places.isEmpty then none
  else (exponent? rest).map fun e => (digitsValue (whole ++ places), e - places.length)

end Decimal

namespace Binary64

/-- the number of a text without white space around it -/
def ofPlainText? (t : Text) : Option Binary64 :=
  let (negative, u) := Decimal.sign t
  let word := Text.lowerLetters u
  if word = "inf" ∨ word = "infinity" then some (.infinite negative)
  else if word = "nan" then some .notANumber
  else (Decimal.parts? u).map fun p => .ofDecimal negative p.1 p.2

/-- white space that may stand around a number: all but the information separators -/
def isPadding (c : Char) : Bool := Text.isBlank c && !(28 ≤ c.toNat && c.toNat ≤ 31)

/-- the text without white space around it -/
def unpadded (t : Text) : Text :=
  ((t.dropWhile isPadding).reverse.dropWhile isPadding).reverse

/-- the number of a text with white space around it -/
def ofPaddedText? (t : Text) : Option Binary64 := ofPlainText? (unpadded t)

/-- the number of a text that is written with the digits of any script -/
def ofNumeral? (t : Text) : Option Binary64 := ofPaddedText? (Text.inAscii t)

/-- the text without its underscores, if they are single and inside -/
def withoutUnderscores? (t : Text) : Option Text :=
  if t.head? = some '_' ∨ t.getLast? = some '_' ∨ Text.includes "__" t ∨ !t.contains '_' then none
  else some (t.filter (· != '_'))

/-- the number of a text with white space around it, or with underscores in it, but not both -/
def ofSpacedText? (t : Text) : Option Binary64 :=
  match ofPaddedText? t with
  | some x => some x
  | none => (withoutUnderscores? t).bind ofPlainText?

end Binary64

end DatabaseTypes
