import DatabaseTypes.Schema.Basic

/-!
# The type of a column

A column appears in three records: as it is read, as a client inserts it and as a client updates
it.  A generated column cannot be written, so it has no type there.

* `ScalarTable`        the output types of the primitive types
* `Classifier`         what decides the types of the fields of a schema
* `Classifier.typeOf`  the type of a field, without null
* `Projection`         a member of one of the records
* `Classifier.row`, `Classifier.insert`, `Classifier.update`   the members of a column
* `Classifier.memberType`   the type of a member of a composite type
-/

namespace DatabaseTypes

/-! ## type texts -/

/-- a type that has nothing in it -/
def neverType : Text := "never"

/-- the null type -/
def nullType : Text := "null"

/-- a type about which nothing is known -/
def unknownType : Text := "unknown"

/-- the type of JSON values, which the output declares -/
def jsonType : Text := "Json"

/-- the union of types -/
def unionType (types : List Text) : Text := Text.joined " | " types

/-- a type with null unless it is required -/
def withNull (type : Text) (isRequired : Bool) : Text :=
  if isRequired then type else unionType [type, nullType]

/-! ## primitive types -/

/-- the output types of the primitive types -/
abbrev ScalarTable := Scalar → Text

/-- numbers for whatever is numeric, texts for dates and bytes -/
def ScalarTable.standard : ScalarTable
  | .int | .bigInt | .float | .decimal => "number"
  | .boolean => "boolean"
  | .bytes | .dateTime | .string => "string"
  | .json => jsonType

/-- what decides the types of the fields of a schema -/
structure Classifier where
  scalars : ScalarTable := ScalarTable.standard
  schemaName : Text := "public"

/-! ## fields -/

namespace Classifier

/-- the path of an entry of a section of the emitted type -/
def reference (c : Classifier) (entries name : Text) : Text :=
  "Database['" ++ c.schemaName ++ "']['" ++ entries ++ "']['" ++ name ++ "']"

/-- the type of a field, without null -/
def typeOf (c : Classifier) (f : Field) : Text :=
  match f.shape with
  | .scalar none => unknownType
  | .scalar (some s) => c.scalars s
  | .enum name => c.reference "Enums" name
  | .composite name => c.reference "CompositeTypes" name
  | .relation r => r.target
  | .unsupported _ => unknownType

/-- the type of a field as it is read -/
def readType (c : Classifier) (f : Field) : Text := withNull (c.typeOf f) f.isRequired

end Classifier

/-! ## records -/

/-- a member of a record -/
structure Projection where
  name : Json
  type : Text
  isOptional : Bool := false
  documentation : List Text := []

/-- a column that cannot be written -/
def Projection.forbidden (f : Field) : Projection :=
  { name := f.name, type := neverType, isOptional := true, documentation := f.documentation }

namespace Classifier

/-- a column as it is read -/
def row (c : Classifier) (f : Field) : Projection :=
  { name := f.name, type := c.readType f, documentation := f.documentation }

/-- a column as a client inserts it: it may be left out if it need not have a value or has one by
default -/
def insert (c : Classifier) (f : Field) : Projection :=
  if f.isGenerated then Projection.forbidden f
  else { name := f.name, type := c.readType f, isOptional := !f.isRequired || f.hasDefault
         documentation := f.documentation }

/-- a column as a client updates it: it may always be left out -/
def update (c : Classifier) (f : Field) : Projection :=
  if f.isGenerated then Projection.forbidden f
  else { name := f.name, type := c.readType f, isOptional := true
         documentation := f.documentation }

/-- the type of a member of a composite type -/
def memberType (c : Classifier) : Option Field → Text
  | none => unknownType
  | some f => unionType [c.typeOf f, nullType]

end Classifier
end DatabaseTypes
