import DatabaseTypes.Order

/-!
# Foreign keys

* `Relation.isForeignKey`    does this side of a relation own the columns of the foreign key?
* `Relationship`             a foreign key that a table owns
* `Table.relationships`      the foreign keys of a table
-/

namespace DatabaseTypes

/-- the side of a relation that owns the foreign key has a name and columns on both sides -/
def Relation.isForeignKey (r : Relation) : Bool :=
  r.name.isTruthy && !r.columns.isEmpty && !r.referenced.isEmpty

/-- a foreign key that a table owns -/
structure Relationship where
  name : Json
  columns : List Json
  isOneToOne : Bool
  target : Text
  referenced : List Json

/-- a field with the relation that makes it a foreign key -/
structure ForeignKey where
  field : Field
  relation : Relation

/-- the foreign key of a field, if it owns one -/
def Field.foreignKey? (f : Field) : Option ForeignKey :=
  match f.shape with
  | .relation r => if r.isForeignKey then some ⟨f, r⟩ else none
  | _ => none

/-- what foreign keys are sorted by: the name of the field, then the name of the relation -/
structure ForeignKey.SortKey where
  field : DatabaseTypes.SortKey
  relation : DatabaseTypes.SortKey

/-- the order of foreign keys: the names of the relations decide between equal field names -/
def ForeignKey.SortKey.atMost (k l : ForeignKey.SortKey) : Bool :=
  if k.field = l.field then k.relation.atMost l.relation else k.field.atMost l.field

/-- the sort key of a foreign key whose names must turn out to be texts -/
def ForeignKey.sortKey (k : ForeignKey) : Except Fault ForeignKey.SortKey := do
  pure ⟨← k.field.name.sortKey, ← k.relation.name.sortKey⟩

/-- the foreign key as it is emitted; it is one to one unless the field is a list -/
def ForeignKey.relationship (k : ForeignKey) : Relationship :=
  { name := k.relation.name, columns := k.relation.columns, isOneToOne := !k.field.isList
    target := k.relation.target, referenced := k.relation.referenced }

/-- the foreign keys of a table in the order of the output -/
def Table.foreignKeys (t : Table) : Except Fault (List ForeignKey) := do
  let pairs ← (t.fields.filterMap Field.foreignKey?).mapM fun k => do pure (← k.sortKey, k)
  pure ((Order.sorted (fun x y => x.1.atMost y.1) pairs).map (·.2))

/-- the foreign keys of a table as they are emitted -/
def Table.relationships (t : Table) : Except Fault (List Relationship) :=
  t.foreignKeys.map fun keys => keys.map ForeignKey.relationship

end DatabaseTypes
