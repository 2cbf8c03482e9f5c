import DatabaseTypes.Decimal.Reading
import DatabaseTypes.Json.Basic
import DatabaseTypes.Limit

/-!
# Reading JSON text

* `Json.Mistake`      what is wrong with a text that is not JSON, with its place
* `Json.ReadFault`    a mistake, or a limit that is exceeded
* `Json.readString`   the rest of a string literal
* `Json.readNumber`   a number
* `Json.ofText`       the value of a whole text, or the first fault

While reading, a place is the number of characters from it to the end of the text, so that every
function needs only the text that is left.  The names `NaN`, `Infinity` and `-Infinity` are
accepted as numbers.  Of a member that is given twice the last value counts.
-/

namespace DatabaseTypes.Json

/-! ## faults -/

/-- what is wrong with a text that is not JSON -/
inductive ReadCause where
  | value
  | propertyName
  | colon
  | comma
  | controlCharacter
  | escape
  | unicodeEscape
  | unterminated
  | extraData
  | byteOrderMark
  deriving DecidableEq

/-- a cause with its place: line and column from one, position from zero -/
structure Mistake where
  cause : ReadCause
  line : Nat
  column : Nat
  position : Nat
  deriving DecidableEq

/-- why a text gives no value -/
inductive ReadFault where
  | mistake (m : Mistake)
  | beyond (l : Limit)
  deriving DecidableEq

/-- the cause in words -/
def ReadCause.message : ReadCause → Text
  | .value => "Expecting value"
  | .propertyName => "Expecting property name enclosed in double quotes"
  | .colon => "Expecting ':' delimiter"
  | .comma => "Expecting ',' delimiter"
  | .controlCharacter => "Invalid control character at"
  | .escape => "Invalid \\escape"
  | .unicodeEscape => "Invalid \\uXXXX escape"
  | .unterminated => "Unterminated string starting at"
  | .extraData => "Extra data"
  | .byteOrderMark => "Unexpected UTF-8 BOM (decode using utf-8-sig)"

/-- the mistake in words, with its place -/
def Mistake.message (m : Mistake) : Text :=
  m.cause.message ++ ": line " ++ Text.ofNat m.line ++ " column " ++ Text.ofNat m.column
    ++ " (char " ++ Text.ofNat m.position ++ ")"

/-- the fault in words -/
def ReadFault.message : ReadFault → Text
  | .mistake m => m.message
  | .beyond l => l.message

/-- a fault while reading: a cause with the number of characters that are left at its place, or a
limit -/
inductive Stop where
  | at (cause : ReadCause) (left : Nat)
  | beyond (l : Limit)

/-- the mistake where `left` characters of a text are left -/
def Mistake.inText (cause : ReadCause) (left : Nat) (t : Text) : Mistake :=
  let position := t.length - left
  let before := t.take position
  { cause := cause
    line := before.count '\n' + 1
    column := (before.reverse.takeWhile (· != '\n')).length + 1
    position := position }

/-- the fault in a text -/
def Stop.inText (t : Text) : Stop → ReadFault
  | .at cause left => .mistake (.inText cause left t)
  | .beyond l => .beyond l

/-- the result of reading a part of a text: what it denotes, and what is left -/
abbrev Reading (α : Type) := Except Stop (α × Text)

/-- stop where `t` is left -/
def stop {α : Type} (cause : ReadCause) (t : Text) : Reading α := .error (.at cause t.length)

/-! ## blanks -/

/-- the white space of JSON -/
def isSpace (c : Char) : Bool := c == ' ' || c == '\t' || c == '\n' || c == '\r'

/-- without leading white space -/
def skipSpace (t : Text) : Text := t.dropWhile isSpace

/-! ## strings -/

/-- the character of a one-letter escape -/
def shortEscape? : Char → Option Char
  | '"' => some '"'
  | '\\' => some '\\'
  | '/' => some '/'
  | 'b' => some '\x08'
  | 'f' => some '\x0c'
  | 'n' => some '\n'
  | 'r' => some '\r'
  | 't' => some '\t'
  | _ => none

/-- the UTF-16 unit of four hexadecimal digits that something follows, and what follows -/
def hexUnit? : Text → Option (Nat × Text)
  | a :: b :: c :: d :: e :: t =>
    match Text.hexDigit? a, Text.hexDigit? b, Text.hexDigit? c, Text.hexDigit? d with
    | some i, some j, some k, some l => some (i * 4096 + j * 256 + k * 16 + l, e :: t)
    | _, _, _, _ => none
  | _ => none

/-- the first half of a surrogate pair -/
def isHighSurrogate (n : Nat) : Bool := 0xd800 ≤ n && n ≤ 0xdbff

/-- the second half of a surrogate pair -/
def isLowSurrogate (n : Nat) : Bool := 0xdc00 ≤ n && n ≤ 0xdfff

/-- the character of a surrogate pair -/
def pairChar (high low : Nat) : Char :=
  Char.ofNat (0x10000 + (high - 0xd800) * 0x400 + (low - 0xdc00))

/-- the character of an escape by units, from the text after `\u`; two units that are a surrogate
pair are one character -/
def readUnits (t : Text) : Reading Char :=
  match hexUnit? t with
  | none => .error (.at .unicodeEscape (t.length + 1))
  | some (high, rest) =>
    if isHighSurrogate high && !(rest.drop 6).isEmpty then
      match rest with
      | '\\' :: 'u' :: after => match hexUnit? after with
        | none => .error (.at .unicodeEscape (after.length + 1))
        | some (low, last) =>
          if isLowSurrogate low then .ok (pairChar high low, last) else .ok (charOfCode high, rest)
      | _ => .ok (charOfCode high, rest)
    else .ok (charOfCode high, rest)

/-- the rest of a string literal after its opening quote; `opened` is the text after that quote,
`read` the characters read so far, reversed.  A number of steps that exceeds the number of the
characters that are left is enough. -/
def readStringFrom (opened : Text) : Nat → Text → Text → Reading Text
  | 0, _, _ => .error (.at .unterminated (opened.length + 1))
  | _ + 1, _, [] => .error (.at .unterminated (opened.length + 1))
  | fuel + 1, read, c :: t =>
    if c = '"' then .ok (read.reverse, t)
    else if c = '\\' then
      match t with
      | [] => .error (.at .unterminated (opened.length + 1))
      | 'u' :: rest => match readUnits rest with
        | .error s => .error s
        | .ok (d, last) => readStringFrom opened fuel (d :: read) last
      | e :: rest => match shortEscape? e with
        | none => .error (.at .escape (t.length + 1))
        | some d => readStringFrom opened fuel (d :: read) rest
    else if c.toNat < 32 then stop .controlCharacter (c :: t)
    else readStringFrom opened fuel (c :: read) t

/-- the rest of a string literal after its opening quote, in so many steps at most -/
def readString (fuel : Nat) (t : Text) : Reading Text := readStringFrom t fuel [] t

/-! ## numbers -/

/-- the integer part of a number without its sign: no zero stands before other digits -/
def wholePart? : Text → Option (Text × Text)
  | '0' :: t => some (['0'], t)
  | t => match Decimal.spanDigits t with
    | ([], _) => none
    | parts => some parts

/-- the decimal places after a point, if there are any -/
def fractionPart : Text → Text × Text
  | '.' :: t => match Decimal.spanDigits t with
    | ([], _) => ([], '.' :: t)
    | parts => parts
  | t => ([], t)

/-- a sign and the digits of an exponent, if there are any -/
def signedDigits? (t : Text) : Option (Int × Text) :=
  let (negative, u) := match t with
    | '-' :: u => (true, u)
    | '+' :: u => (false, u)
    | u => (false, u)
  match Decimal.spanDigits u with
  | ([], _) => none
  | (digits, rest) =>
    let n : Int := Decimal.digitsValue digits
    some (if negative then -n else n, rest)

/-- the exponent after an `e`, if it is complete -/
def exponentPart? : Text → Option (Int × Text)
  | c :: t => if c = 'e' ∨ c = 'E' then signedDigits? t else none
  | [] => none

/-- an integer of its digits, of which there may be too many -/
def integerOf (negative : Bool) (digits : Text) : Except Stop Json :=
  if Limit.digits < digits.length then .error (.beyond (.digitsRead digits.length))
  else
    let n : Int := Decimal.digitsValue digits
    .ok (.int (if negative then -n else n))

/-- a number without its sign: an integer unless there are decimal places or an exponent; if there
is none the text stays at `place` -/
def readUnsigned (place : Text) (negative : Bool) (t : Text) : Reading Json :=
  match wholePart? t with
  | none => stop .value place
  | some (whole, rest) =>
    let (fraction, rest) := fractionPart rest
    let scaled (e : Int) : Json :=
      .float (.ofDecimal negative (Decimal.digitsValue (whole ++ fraction)) (e - fraction.length))
    match exponentPart? rest with
    | some (e, last) => .ok (scaled e, last)
    | none =>
      if fraction.isEmpty then (integerOf negative whole).map fun v => (v, rest)
      else .ok (scaled 0, rest)

/-- a number, with the names of the values that have no digits -/
def readNumber (t : Text) : Reading Json :=
  match t with
  | '-' :: u => match Text.after? "Infinity" u with
    | some rest => .ok (.float (.infinite true), rest)
    | none => readUnsigned t true u
  | _ => readUnsigned t false t

/-- the words that are values -/
def words : List (Text × Json) :=
  [("null", .null), ("true", .bool true), ("false", .bool false),
   ("NaN", .float .notANumber), ("Infinity", .float (.infinite false))]

/-- a word at the front -/
def readWord? (t : Text) : Option (Json × Text) :=
  words.findSome? fun w => (Text.after? w.1 t).map fun rest => (w.2, rest)

/-! ## values -/

/-- one level deeper, if a limit allows it -/
def deeper {α : Type} (depth : Nat) (l : Limit) (r : Nat → Reading α) : Reading α :=
  match depth with
  | 0 => .error (.beyond l)
  | d + 1 => r d

mutual

/-- a value; `depth` is how many levels deeper lists and objects may go -/
def readValue (depth : Nat) : Nat → Text → Reading Json
  | 0, t => stop .value t
  | fuel + 1, t => match t with
    | '"' :: u => match readString fuel u with
      | .error s => .error s
      | .ok (s, rest) => .ok (.text s, rest)
    | '[' :: u => deeper depth .listDepth fun depth => match skipSpace u with
      | ']' :: rest => .ok (.list [], rest)
      | first => match readItems depth fuel [] first with
        | .error s => .error s
        | .ok (items, rest) => .ok (.list items, rest)
    | '\x7b' :: u => deeper depth .objectDepth fun depth => match skipSpace u with
      | '\x7d' :: rest => .ok (.object [], rest)
      | first => match readMembers depth fuel [] first with
        | .error s => .error s
        | .ok (members, rest) => .ok (.object members, rest)
    | _ => match readWord? t with
      | some r => .ok r
      | none => readNumber t

/-- the items of a list from the first one on, up to the closing bracket; `read` are the items
read so far, reversed -/
def readItems (depth : Nat) : Nat → List Json → Text → Reading (List Json)
  | 0, _, t => stop .value t
  | fuel + 1, read, t => match readValue depth fuel t with
    | .error s => .error s
    | .ok (v, rest) => match skipSpace rest with
      | ']' :: last => .ok ((v :: read).reverse, last)
      | ',' :: next => readItems depth fuel (v :: read) (skipSpace next)
      | other => stop .comma other

/-- the members of an object from the first one on, up to the closing brace; `read` are the members
read so far -/
def readMembers (depth : Nat) : Nat → List (Text × Json) → Text → Reading (List (Text × Json))
  | 0, _, t => stop .value t
  | fuel + 1, read, t => match t with
    | '"' :: u => match readString fuel u with
      | .error s => .error s
      | .ok (key, rest) => match skipSpace rest with
        | ':' :: w => match readValue depth fuel (skipSpace w) with
          | .error s => .error s
          | .ok (v, rest) => match skipSpace rest with
            | '\x7d' :: last => .ok (Members.put key v read, last)
            | ',' :: next => readMembers depth fuel (Members.put key v read) (skipSpace next)
            | other => stop .comma other
        | other => stop .colon other
    | other => stop .propertyName other

end

/-- the value of a whole text that begins with no byte order mark -/
def readWhole (t : Text) : Except Stop Json :=
  match readValue Limit.depth (2 * t.length + 2) (skipSpace t) with
  | .error s => .error s
  | .ok (v, rest) => match skipSpace rest with
    | [] => .ok v
    | extra => .error (.at .extraData extra.length)

/-- the value of a whole text, or the first fault -/
def ofText (t : Text) : Except ReadFault Json :=
  match t with
  | '\ufeff' :: _ => .error (.mistake ⟨.byteOrderMark, 1, 1, 0⟩)
  | _ => match readWhole t with
    | .error s => .error (s.inText t)
    | .ok v => .ok v

end DatabaseTypes.Json
