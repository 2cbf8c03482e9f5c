import DatabaseTypes.Yaml.Value

/-!
# Display of values of settings files

The text of a value in messages: a text stands for itself, and inside another value it is quoted.  A
collection that is met again inside itself is displayed by its brackets alone.

* `Yaml.Value.display`        the text of a value
* `Yaml.Value.isWritable`     is no integer in it too long to be written?
* `Yaml.Value.displayed?`     the text of a value that can be written
* `Yaml.Value.toJson`         the JSON value that a value is
-/

namespace DatabaseTypes.Yaml.Value

/-! ## bytes -/

/-- a byte in quotes -/
def quotedByte (q : Char) (b : UInt8) : Text :=
  let c := Char.ofNat b.toNat
  if c = q ∨ c = '\\' then ['\\', c]
  else if c = '\n' then ['\\', 'n']
  else if c = '\r' then ['\\', 'r']
  else if c = '\t' then ['\\', 't']
  else if 32 ≤ b ∧ b < 127 then [c]
  else ['\\', 'x'] ++ Text.hexadecimal 2 b.toNat

/-- bytes in quotes, marked as bytes -/
def quotedBytes (bs : Bytes) : Text :=
  let q := Text.quote (bs.map fun b => Char.ofNat b.toNat)
  'b' :: q :: bs.flatMap (quotedByte q) ++ [q]

/-! ## values -/

/-- what stands for a collection inside itself -/
def ellipsis : Value → Text
  | .mapping _ => "\x7b...\x7d"
  | .pair _ _ => "(...)"
  | _ => "[...]"

mutual

/-- the text of a value inside others; `around` are the collections that hold themselves and are
being displayed, with what stands for them -/
def quotedWithin (around : List (Nat × Text)) : Value → Text
  | .null => "None"
  | .bool true => "True"
  | .bool false => "False"
  | .int i => Text.ofInt i
  | .float x => x.text
  | .noNumber _ => Binary64.notANumber.text
  | .text t => t.quoted
  | .bytes bs => quotedBytes bs
  | .date d => d.parts
  | .moment m => m.parts
  | .list items => '[' :: Text.joined ", " (itemsWithin around items) ++ [']']
  | .pair first second =>
    '(' :: quotedWithin around first ++ [',', ' '] ++ quotedWithin around second ++ [')']
  | .set [] => "set()"
  | .set (v :: vs) => '\x7b' :: Text.joined ", " (itemsWithin around (v :: vs)) ++ ['\x7d']
  | .mapping entries => '\x7b' :: Text.joined ", " (entriesWithin around entries) ++ ['\x7d']
  | .knot number body => match around.lookup number with
    | some shown => shown
    | none => quotedWithin ((number, body.ellipsis) :: around) body
  | .again number => (around.lookup number).getD []

/-- the texts of items -/
def itemsWithin (around : List (Nat × Text)) : List Value → List Text
  | [] => []
  | v :: vs => quotedWithin around v :: itemsWithin around vs

/-- the texts of the entries of a mapping -/
def entriesWithin (around : List (Nat × Text)) : List (Value × Value) → List Text
  | [] => []
  | (k, v) :: es =>
    (quotedWithin around k ++ [':', ' '] ++ quotedWithin around v) :: entriesWithin around es

end

/-- the text of a value -/
def display : Value → Text
  | .text t => t
  | .date d => d.text
  | .moment m => m.text
  | v => v.quotedWithin []

/-! ## long integers -/

mutual

/-- is no integer in a value too long to be written? -/
def isWritable : Value → Bool
  | .int i => !Limit.exceedsDigits i
  | .list items => areWritable items
  | .pair first second => isWritable first && isWritable second
  | .set items => areWritable items
  | .mapping entries => entriesAreWritable entries
  | .knot _ body => isWritable body
  | _ => true

/-- is no integer in the items too long to be written? -/
def areWritable : List Value → Bool
  | [] => true
  | v :: vs => isWritable v && areWritable vs

/-- is no integer in the entries too long to be written? -/
def entriesAreWritable : List (Value × Value) → Bool
  | [] => true
  | (k, v) :: es => isWritable k && isWritable v && entriesAreWritable es

end

/-- the text of a value, unless an integer in it is too long -/
def displayed? (v : Value) : Option Text := if v.isWritable then some v.display else none

/-! ## JSON values -/

mutual

/-- the JSON value that a value is, with keys and whatever JSON lacks as displayed -/
def toJson : Value → Json
  | .null => .null
  | .bool b => .bool b
  | .int i => .int i
  | .float x => .float x
  | .text t => .text t
  | .list items => .list (toJsonItems items)
  | .mapping entries => .object (toJsonEntries entries)
  | v => .text v.display

/-- the items of a list as JSON values -/
def toJsonItems : List Value → List Json
  | [] => []
  | v :: vs => toJson v :: toJsonItems vs

/-- the entries of a mapping as members of a JSON object -/
def toJsonEntries : List (Value × Value) → List (Text × Json)
  | [] => []
  | (k, v) :: es => (k.display, toJson v) :: toJsonEntries es

end

end DatabaseTypes.Yaml.Value
