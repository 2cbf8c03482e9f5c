import DatabaseTypes.Fault
import DatabaseTypes.Json.Writer
import DatabaseTypes.Schema.Basic
import DatabaseTypes.Text.Lines

/-!
# Reading a schema

A model is a JSON object with the lists `models`, `enums` and `types`.  What is missing counts as
empty, and a field of a kind that is not known is kept as unsupported; only names are needed.

* `Key.ofName`                   the key of a name in the emitted type: an identifier, or a string literal
* `Documentation.ofJson`         lines without trailing white space that neither begin nor end with an empty one
* `Json.lookup`, `Json.demand`   a member that may, and one that must be there
* `Field.ofJson`                 a field
* `Table.ofJson`, `Enum.ofJson`, `Composite.ofJson`
* `Schema.ofJson`                the schema of a model
-/

namespace DatabaseTypes

/-! ## keys -/

namespace Key

/-- may an identifier begin with this character? -/
def isHead (c : Char) : Bool := Text.isLetter c || c == '_' || c == '$'

/-- may this character follow in an identifier? -/
def isTail (c : Char) : Bool := isHead c || Text.isDigit c

/-- is the text an identifier? -/
def isIdentifier : Text → Bool
  | [] => false
  | c :: t => isHead c && t.all isTail

/-- does the text stand as a key without quotes? One line feed at its end is overlooked. -/
def isBare (name : Text) : Bool :=
  isIdentifier name || (name.getLast? == some '\n' && isIdentifier name.dropLast)

/-- the key of a name: the name itself, or a string literal of it -/
def ofName (name : Text) : Text := if isBare name then name else Json.literal false name

theorem ofName_of_isIdentifier {name : Text} (h : isIdentifier name = true) :
    ofName name = name := by
  simp [ofName, isBare, h]

end Key

/-! ## documentation -/

/-- what going through a value gives: the items of a list, the characters of a text, the keys of
an object -/
def Json.elements : Json → Except Fault (List Json)
  | .list items => .ok items
  | .text t => .ok (t.map fun c => .text [c])
  | .object members => .ok (members.map fun m => .text m.1)
  | v => .error (.notIterable v.kind)

namespace Documentation

/-- lines without the empty ones at the end -/
def withoutLastBlanks (ls : List Text) : List Text :=
  (ls.reverse.dropWhile List.isEmpty).reverse

/-- lines without the empty ones at either end -/
def framed (ls : List Text) : List Text := (withoutLastBlanks ls).dropWhile List.isEmpty

/-- lines, each without white space at its end, and without empty lines at either end -/
def ofLines (ls : List Text) : List Text := framed (ls.map Text.trimEnd)

/-- the documentation of a text -/
def ofText (t : Text) : List Text := ofLines t.lines

/-- the documentation that a model gives: nothing, a text, or anything that can be gone through,
each element being displayed as one line -/
def ofJson : Option Json → Except Fault (List Text)
  | none => .ok []
  | some .null => .ok []
  | some (.text t) => .ok (ofText t)
  | some v => v.elements.map fun items => ofLines (items.map Json.display)

end Documentation

/-! ## members -/

/-- the member under a key, if it is there -/
def Json.lookup (key : Text) : Json → Except Fault (Option Json)
  | .object members => .ok (members.lookup key)
  | v => .error (.lacks v.kind "get")

/-- the member under a key that must be there -/
def Json.demand (key : Text) : Json → Except Fault Json
  | .object members => match members.lookup key with
    | some v => .ok v
    | none => .error (.missing key)
  | v => .error (.noMembers v.kind)

/-- the elements of a member; one that is absent or counts as false has none -/
def Json.elementsAt (key : Text) (v : Json) : Except Fault (List Json) := do
  match (← v.lookup key).bind Json.truthy? with
  | none => pure []
  | some w => w.elements

/-- does the member under a key count as true? `absent` is the answer if it is absent -/
def Json.flagAt (key : Text) (absent : Bool) (v : Json) : Except Fault Bool := do
  pure (((← v.lookup key).map Json.isTruthy).getD absent)

/-- a value that must be a text, as a name that is matched against a pattern -/
def Json.asName : Json → Except Fault Text
  | .text t => .ok t
  | v => .error (.notText v.kind)

/-! ## fields -/

/-- is a value given by default? An explicit flag decides, otherwise the presence of a default. -/
def Field.givesDefault (flag default : Option Json) : Bool :=
  let present (v : Option Json) := v.any fun w => !w.isNull
  if present flag then flag.any Json.isTruthy else present default

/-- the columns of one side of a foreign key -/
def Field.keyColumns (key : Text) (raw : Json) : Except Fault (List Json) := raw.elementsAt key

/-- what a field of a kind holds -/
def Shape.ofJson (raw : Json) (kind : Json) (typeName : Text) (relation : Option Json) :
    Except Fault Shape :=
  match kind with
  | .text k =>
    if k = "scalar" then .ok (.scalar (Scalar.ofName? typeName))
    else if k = "enum" then .ok (.enum typeName)
    else if k = "object" then
      match relation with
      | none => .ok (.composite typeName)
      | some name => do
        let columns ← Field.keyColumns "relationFromFields" raw
        let referenced ← Field.keyColumns "relationToFields" raw
        pure (.relation { name, target := typeName, columns, referenced })
    else .ok (.unsupported kind)
  | _ => .ok (.unsupported kind)

/-- a field -/
def Field.ofJson (raw : Json) : Except Fault Field := do
  let kind ← raw.lookup "kind"
  let type ← raw.lookup "type"
  let relation ← raw.lookup "relationName"
  let flag ← raw.lookup "hasDefaultValue"
  let default ← raw.lookup "default"
  let name ← raw.demand "name"
  let isRequired ← raw.flagAt "isRequired" true
  let isGenerated ← raw.flagAt "isGenerated" false
  let isList ← raw.flagAt "isList" false
  let documentation ← Documentation.ofJson (← raw.lookup "documentation")
  let typeName := ((type.bind Json.truthy?).map Json.display).getD []
  let shape ← Shape.ofJson raw (kind.getD .null) typeName (relation.bind Json.truthy?)
  pure { name, isRequired, isGenerated, hasDefault := givesDefault flag default, isList
         documentation, shape }

/-! ## tables, enums and composite types -/

/-- a table -/
def Table.ofJson (raw : Json) : Except Fault Table := do
  let name ← (← raw.demand "name").asName
  let fields ← (← raw.elementsAt "fields").mapM Field.ofJson
  let documentation ← Documentation.ofJson (← raw.lookup "documentation")
  pure { name, key := Key.ofName name, fields, documentation }

/-- a variant of an enum -/
def Variant.ofJson (raw : Json) : Except Fault Variant := do
  let name ← raw.demand "name"
  let documentation ← Documentation.ofJson (← raw.lookup "documentation")
  pure { name, documentation }

/-- an enum -/
def Enum.ofJson (raw : Json) : Except Fault Enum := do
  let variants ← (← raw.elementsAt "values").mapM Variant.ofJson
  let name ← (← raw.demand "name").asName
  let documentation ← Documentation.ofJson (← raw.lookup "documentation")
  pure { name, key := Key.ofName name, variants, documentation }

/-- a member of a composite type; it is a field if it has a type -/
def Member.ofJson (raw : Json) : Except Fault Member := do
  let typed := ((← raw.lookup "type").bind Json.truthy?).isSome
  let type ← if typed then (Field.ofJson raw).map some else pure none
  let name ← raw.demand "name"
  let documentation ← Documentation.ofJson (← raw.lookup "documentation")
  pure { name, type, documentation }

/-- a composite type -/
def Composite.ofJson (raw : Json) : Except Fault Composite := do
  let members ← (← raw.elementsAt "fields").mapM Member.ofJson
  let name ← (← raw.demand "name").asName
  pure { name, key := Key.ofName name, members }

/-! ## schemas -/

/-- the name of the schema that holds whatever a model describes -/
def Schema.defaultName : Text := "public"

/-- the schema of a model -/
def Schema.ofJson (datamodel : Json) : Except Fault Schema := do
  let tables ← (← datamodel.elementsAt "models").mapM Table.ofJson
  let enums ← (← datamodel.elementsAt "enums").mapM Enum.ofJson
  let composites ← (← datamodel.elementsAt "types").mapM Composite.ofJson
  pure { name := defaultName, key := Key.ofName defaultName, tables, enums, composites }

end DatabaseTypes
