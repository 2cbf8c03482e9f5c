import DatabaseTypes.Json.Basic

/-!
# Schemas

A schema is what the model of a database says: tables with fields, enums and composite types.
Names that the model gives without a promise of their sort (of fields, of enum variants, of the
columns of a foreign key) are JSON values.

* `Scalar`         the primitive types of columns
* `Shape`          what a field holds
* `Field`          a field of a table
* `Table`, `Enum`, `Composite`, `Schema`
* `Table.columns`  the fields that are columns
-/

namespace DatabaseTypes

/-! ## fields -/

/-- the primitive types of columns -/
inductive Scalar where
  | int
  | bigInt
  | float
  | decimal
  | boolean
  | bytes
  | dateTime
  | json
  | string
  deriving DecidableEq

/-- the name of a primitive type in a model -/
def Scalar.name : Scalar → Text
  | .int => "Int"
  | .bigInt => "BigInt"
  | .float => "Float"
  | .decimal => "Decimal"
  | .boolean => "Boolean"
  | .bytes => "Bytes"
  | .dateTime => "DateTime"
  | .json => "Json"
  | .string => "String"

/-- the primitive types -/
def Scalar.all : List Scalar :=
  [.int, .bigInt, .float, .decimal, .boolean, .bytes, .dateTime, .json, .string]

/-- the primitive type of a name -/
def Scalar.ofName? (name : Text) : Option Scalar := Scalar.all.find? (·.name == name)

theorem Scalar.ofName?_name (s : Scalar) : Scalar.ofName? s.name = some s := by
  cases s <;> decide

/-- the way from one table to another: the name of the relation, the other table, and the columns
on either side of the foreign key, which are empty on the side that does not own it -/
structure Relation where
  name : Json
  target : Text
  columns : List Json := []
  referenced : List Json := []

/-- what a field holds -/
inductive Shape where
  /-- a primitive value; the type may be one that is not known -/
  | scalar (type : Option Scalar)
  /-- a variant of an enum -/
  | enum (name : Text)
  /-- rows of another table -/
  | relation (relation : Relation)
  /-- a value of a composite type -/
  | composite (name : Text)
  /-- something of a kind that is not known -/
  | unsupported (kind : Json)

/-- a field of a table -/
structure Field where
  name : Json
  isRequired : Bool := true
  isGenerated : Bool := false
  hasDefault : Bool := false
  isList : Bool := false
  documentation : List Text := []
  shape : Shape

/-- does the field lead to another table? -/
def Field.isRelation (f : Field) : Bool :=
  match f.shape with
  | .relation _ => true
  | _ => false

/-! ## schemas -/

/-- a table: `name` is its name in the model, `key` the same as a key of the emitted type -/
structure Table where
  name : Text
  key : Text
  fields : List Field := []
  documentation : List Text := []

/-- the fields that are columns: all but the relations -/
def Table.columns (t : Table) : List Field := t.fields.filter fun f => !f.isRelation

/-- a variant of an enum -/
structure Variant where
  name : Json
  documentation : List Text := []

/-- an enum -/
structure Enum where
  name : Text
  key : Text
  variants : List Variant := []
  documentation : List Text := []

/-- a member of a composite type; the model may give it no type -/
structure Member where
  name : Json
  type : Option Field := none
  documentation : List Text := []

/-- a composite type -/
structure Composite where
  name : Text
  key : Text
  members : List Member := []

/-- a schema of a database -/
structure Schema where
  name : Text
  key : Text
  tables : List Table := []
  enums : List Enum := []
  composites : List Composite := []

end DatabaseTypes
