import DatabaseTypes.Text.Lines
import DatabaseTypes.Yaml.Cursor

/-!
# Tags

A tag says what a node stands for.  A text that is neither tagged nor in quotes gets its tag from
the way it looks.

* `Yaml.Tag`            the tags
* `Yaml.Tag.ofText`     the tag of its full name
* `Yaml.Tag.ofPlain`    the tag of a text that stands plainly
* `Yaml.isIntText`, `Yaml.isFloatText`, `Yaml.isTimeText`   how numbers and times look
-/

namespace DatabaseTypes.Yaml

/-- what a node can stand for -/
inductive Tag where
  | null
  | bool
  | int
  | float
  | text
  | bytes
  | time
  | list
  | mapping
  | set
  /-- a list of pairs, with keys in order -/
  | orderedPairs
  /-- a list of pairs -/
  | pairs
  /-- the key under which other mappings are merged -/
  | merge
  /-- the key under which a mapping has its plain value -/
  | plainValue
  | unknown
  deriving DecidableEq

namespace Tag

/-- the beginning of the tags of the format itself -/
def standard : Text := "tag:yaml.org,2002:"

/-- the names of the tags of the format -/
def names : List (Text × Tag) := [
  ("null", .null), ("bool", .bool), ("int", .int), ("float", .float), ("str", .text),
  ("binary", .bytes), ("timestamp", .time), ("seq", .list), ("map", .mapping), ("set", .set),
  ("omap", .orderedPairs), ("pairs", .pairs), ("merge", .merge), ("value", .plainValue)]

/-- the tag of a full name -/
def ofText (t : Text) : Tag :=
  match Text.after? standard t with
  | none => .unknown
  | some name => (names.lookup name).getD .unknown

end Tag

/-! ## how plain texts look -/

/-- without a sign at the front -/
def withoutSign : Text → Text
  | '-' :: t => t
  | '+' :: t => t
  | t => t

/-- does a text begin with a digit that `first` accepts, and go on with those of `rest`? -/
def looksLike (first rest : Char → Bool) : Text → Bool
  | [] => false
  | c :: t => first c && t.all rest

/-- a decimal digit or an underscore -/
def isSpacedDigit (c : Char) : Bool := Text.isDigit c || c == '_'

/-- a decimal digit that is not zero -/
def isHeadDigit (c : Char) : Bool := Text.isDigit c && c != '0'

/-- one or two digits below sixty -/
def isSixtieth : Text → Bool
  | [c] => Text.isDigit c
  | [c, d] => '0' ≤ c && c ≤ '5' && Text.isDigit d
  | _ => false

/-- the words for truth values -/
def boolWords : List Text := [
  "yes", "Yes", "YES", "no", "No", "NO", "true", "True", "TRUE", "false", "False", "FALSE",
  "on", "On", "ON", "off", "Off", "OFF"]

/-- the words for nothing -/
def nullWords : List Text := ["", "~", "null", "Null", "NULL"]

/-- digits of a base after its mark -/
def isBased (mark : Text) (digit : Char → Bool) (t : Text) : Bool :=
  match Text.after? mark t with
  | none => false
  | some digits => !digits.isEmpty && digits.all fun c => digit c || c == '_'

/-- an unsigned integer: binary, octal, decimal, hexadecimal, or in base sixty -/
def isUnsignedInt (t : Text) : Bool :=
  isBased "0b" (fun c => c == '0' || c == '1') t
    || isBased "0" (fun c => '0' ≤ c && c ≤ '7') t
    || t == ['0'] || looksLike isHeadDigit isSpacedDigit t
    || isBased "0x" (fun c => (Text.hexDigit? c).isSome) t
    || (match Text.split ':' t with
      | first :: second :: more =>
        looksLike isHeadDigit isSpacedDigit first && (second :: more).all isSixtieth
      | _ => false)

/-- does a text look like an integer? -/
def isIntText (t : Text) : Bool := isUnsignedInt (withoutSign t)

/-- an exponent with its sign, or nothing -/
def isExponent : Text → Bool
  | [] => true
  | e :: s :: c :: t =>
    (e == 'e' || e == 'E') && (s == '-' || s == '+') && Text.isDigit c && t.all Text.isDigit
  | _ => false

/-- digits, a point, further digits and an exponent; without digits before the point there must be
one after it, and no sign -/
def isPointed (signed : Bool) (t : Text) : Bool :=
  let whole := t.takeWhile isSpacedDigit
  match t.dropWhile isSpacedDigit with
  | '.' :: u =>
    let places := u.takeWhile isSpacedDigit
    let good :=
      if whole.isEmpty then !signed && looksLike Text.isDigit isSpacedDigit places
      else looksLike Text.isDigit isSpacedDigit whole
    good && isExponent (u.dropWhile isSpacedDigit)
  | _ => false

/-- a number in base sixty with a point -/
def isPointedSixtieths (t : Text) : Bool :=
  let places := t.reverse.takeWhile isSpacedDigit
  match t.reverse.dropWhile isSpacedDigit with
  | '.' :: u =>
    places.all isSpacedDigit && (match Text.split ':' u.reverse with
      | first :: second :: more =>
        looksLike Text.isDigit isSpacedDigit first && (second :: more).all isSixtieth
      | _ => false)
  | _ => false

/-- does a text look like a number with a point? -/
def isFloatText (t : Text) : Bool :=
  let u := withoutSign t
  isPointed (u != t) u || isPointedSixtieths u
    || [(".inf" : Text), ".Inf", ".INF"].contains u || [(".nan" : Text), ".NaN", ".NAN"].contains t

/-! ## dates and times -/

/-- the parts of a date and perhaps a time, as they are written -/
structure TimeParts where
  year : Text
  month : Text
  day : Text
  clock : Option (Text × Text × Text) := none
  fraction : Text := []
  /-- an offset with its sign, or the mark of universal time as an offset of zero -/
  zone : Option (Bool × Text × Text) := none

/-- between `least` and `most` digits at the front, as many as there are -/
def digitRun? (least most : Nat) (t : Text) : Option (Text × Text) :=
  let digits := (t.take most).takeWhile Text.isDigit
  if least ≤ digits.length then some (digits, t.drop digits.length) else none

/-- one character at the front -/
def mark? (c : Char) : Text → Option Text
  | [] => none
  | d :: t => if d = c then some t else none

/-- the zone at the end of a time, with white space before it -/
def zone? (t : Text) : Option (Option (Bool × Text × Text)) :=
  match t.dropWhile fun c => c == ' ' || c == '\t' with
  | [] => if t.isEmpty then some none else none
  | ['Z'] => some (some (false, [], []))
  | c :: u =>
    if c = '-' ∨ c = '+' then do
      let (hours, u) ← digitRun? 1 2 u
      if u.isEmpty then pure (some (c == '-', hours, []))
      else
        let (minutes, u) ← digitRun? 2 2 (← mark? ':' u)
        if u.isEmpty then pure (some (c == '-', hours, minutes)) else none
    else none

/-- the time after a date -/
def clock? (date : TimeParts) (t : Text) : Option TimeParts := do
  let blank (c : Char) : Bool := c == ' ' || c == '\t'
  let t ← match t with
    | c :: u => if c = 'T' ∨ c = 't' then some u else if blank c then some (u.dropWhile blank) else none
    | [] => none
  let (hour, t) ← digitRun? 1 2 t
  let (minute, t) ← digitRun? 2 2 (← mark? ':' t)
  let (second, t) ← digitRun? 2 2 (← mark? ':' t)
  let (fraction, t) := match t with
    | '.' :: u => (u.takeWhile Text.isDigit, u.dropWhile Text.isDigit)
    | u => ([], u)
  let zone ← zone? t
  pure { date with clock := some (hour, minute, second), fraction, zone }

/-- the parts of a date and perhaps a time -/
def timeParts? (t : Text) : Option TimeParts := do
  let (year, t) ← digitRun? 4 4 t
  let (month, t) ← digitRun? 1 2 (← mark? '-' t)
  let (day, t) ← digitRun? 1 2 (← mark? '-' t)
  let date : TimeParts := { year, month, day }
  if t.isEmpty then pure date else clock? date t

/-- does a text look like a date or a time? A date alone has two digits for month and day. -/
def isTimeText (t : Text) : Bool :=
  match timeParts? t with
  | none => false
  | some p => p.clock.isSome || (p.month.length == 2 && p.day.length == 2)

/-- the tag of a text without a line feed at its end -/
def Tag.ofWord (t : Text) : Tag :=
  if boolWords.contains t then .bool
  else if isFloatText t then .float
  else if isIntText t then .int
  else if t = "<<" then .merge
  else if nullWords.contains t then .null
  else if isTimeText t then .time
  else if t = "=" then .plainValue
  else .text

/-- the tag of a text that stands plainly; one line feed at its end is overlooked, unless there is
nothing else -/
def Tag.ofPlain (t : Text) : Tag :=
  if t.head? = some '\n' then .text else .ofWord t.withoutFinalBreak

end DatabaseTypes.Yaml
