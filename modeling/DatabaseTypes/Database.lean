import DatabaseTypes.Schema.Reading
import DatabaseTypes.Projection
import DatabaseTypes.Relationship
import DatabaseTypes.Comment
import DatabaseTypes.Layout
import DatabaseTypes.Accessors

/-!
# The type of a database

Schemas become one type declaration with a block for each schema, and in it a block each for
tables, views, functions, enums and composite types.

* `Emission`              what can be chosen about the output
* `Emission.table`, `Emission.enum`, `Emission.composite`   the entries of the sections
* `Emission.schema`       the block of a schema
* `Emission.file`         the whole output
* `generateTypes`         the output for a model
-/

namespace DatabaseTypes

/-- what can be chosen about the output -/
structure Emission where
  documentation : Bool := true
  scalars : ScalarTable := ScalarTable.standard

namespace Emission

/-! ## indentation -/

/-- the indentation of schemas -/
def schemaIndent : Text := Text.spaces 2
/-- the indentation of the sections of a schema -/
def sectionIndent : Text := Text.spaces 4
/-- the indentation of the entries of a section -/
def entryIndent : Text := Text.spaces 6
/-- the indentation of the records of a table -/
def recordIndent : Text := Text.spaces 8
/-- the indentation of the members of a record -/
def memberIndent : Text := Text.spaces 10
/-- the indentation of the parts of a foreign key -/
def relationshipIndent : Text := Text.spaces 12

/-- a block in braces under a title -/
def braced (indent title : Text) (body : Layout) : Layout :=
  .block (indent ++ title ++ ": \x7b") body (indent ++ "\x7d")

/-- the comment of documentation, if comments are wanted -/
def comment (e : Emission) (documentation : List Text) : List Text :=
  Comment.shown e.documentation (Comment.ofLines documentation)

/-! ## tables -/

/-- the line of a member of a record -/
def memberLine (p : Projection) : Text :=
  memberIndent ++ p.name.display ++ (if p.isOptional then "?" else "").toList ++ ": " ++ p.type

/-- a member of a record with its comment -/
def member (e : Emission) (p : Projection) : Layout :=
  .before (e.comment p.documentation) (.verbatim (memberLine p)) memberIndent

/-- a record of columns that are in order -/
def record (e : Emission) (title : Text) (members : List Projection) : Layout :=
  braced recordIndent title (.joined (members.map e.member) ";\n")

/-- the parts of a foreign key, one on a line -/
def relationshipLines (r : Relationship) : List Text :=
  ["foreignKeyName: " ++ r.name.written .plain ++ ";",
   "columns: " ++ (Json.list r.columns).written .compact ++ ";",
   "isOneToOne: " ++ (if r.isOneToOne then "true" else "false").toList ++ ";",
   "referencedRelation: " ++ Json.literal false r.target ++ ";",
   "referencedColumns: " ++ (Json.list r.referenced).written .compact]

/-- a foreign key -/
def relationship (r : Relationship) : Layout :=
  .block (memberIndent ++ "\x7b") (.lines (relationshipLines r) relationshipIndent)
    (memberIndent ++ "\x7d")

/-- the foreign keys of a table -/
def relationships (rs : List Relationship) : Layout :=
  .block (recordIndent ++ "Relationships: [") (.joined (rs.map relationship) ",\n")
    (recordIndent ++ "]")

/-- the entry of a table whose columns and foreign keys are in order -/
def tableBlock (e : Emission) (c : Classifier) (t : Table) (columns : List Field)
    (keys : List Relationship) : Layout :=
  .before (e.comment t.documentation)
    (braced entryIndent t.key (.stacked
      [e.record "Row" (columns.map c.row), e.record "Insert" (columns.map c.insert),
       e.record "Update" (columns.map c.update), relationships keys]))
    entryIndent

/-- the entry of a table: a record for reading, inserting and updating, and its foreign keys -/
def table (e : Emission) (c : Classifier) (t : Table) : Except Fault Layout := do
  let keys ← t.relationships
  let columns ← Order.byName Field.name t.columns
  pure (e.tableBlock c t columns keys)

/-! ## enums and composite types -/

/-- the variants of an enum as a union of literals -/
def variantUnion (variants : List Variant) : Text :=
  unionType (variants.map fun v => v.name.written .plain)

/-- the entry of an enum -/
def enum (e : Emission) (x : Enum) : Layout :=
  .before (Comment.shown e.documentation (Comment.ofEnum x))
    (.verbatim (entryIndent ++ x.key ++ ": " ++ variantUnion x.variants)) entryIndent

/-- a member of a composite type -/
def compositeMember (e : Emission) (c : Classifier) (m : Member) : Layout :=
  .before (e.comment m.documentation)
    (.verbatim (recordIndent ++ m.name.display ++ ": " ++ c.memberType m.type)) recordIndent

/-- the entry of a composite type -/
def composite (e : Emission) (c : Classifier) (x : Composite) : Layout :=
  braced entryIndent x.key (.joined (x.members.map (e.compositeMember c)) ",\n")

/-! ## sections -/

/-- what stands in a section without entries -/
def emptySection : Text := "[_ in never]: never"

/-- the body of a section -/
def entries (separator : Text) (nodes : List Layout) : Layout :=
  if nodes.isEmpty then .verbatim (entryIndent ++ emptySection) else .joined nodes separator

/-- a section of a schema that is not supported -/
def placeholder (title note : Text) : Layout :=
  braced sectionIndent title (.verbatim (entryIndent ++ note))

/-- the tables of a schema -/
def tables (e : Emission) (c : Classifier) (s : Schema) : Except Fault Layout := do
  pure (braced sectionIndent "Tables" (entries ";\n" (← s.orderedTables.mapM (e.table c))))

/-- the enums of a schema -/
def enums (e : Emission) (s : Schema) : Layout :=
  braced sectionIndent "Enums" (entries "\n" (s.orderedEnums.map e.enum))

/-- the composite types of a schema -/
def composites (e : Emission) (c : Classifier) (s : Schema) : Layout :=
  braced sectionIndent "CompositeTypes"
    (entries ",\n\n" (s.orderedComposites.map (e.composite c)))

/-- what decides the types of the fields of a schema -/
def classifier (e : Emission) (s : Schema) : Classifier :=
  { scalars := e.scalars, schemaName := s.name }

/-- the block of a schema -/
def schema (e : Emission) (s : Schema) : Except Fault Layout := do
  let c := e.classifier s
  let tables ← e.tables c s
  pure (braced schemaIndent s.key (.stacked
    [tables, placeholder "Views" "/* No support for views */",
     placeholder "Functions" "/* No support for functions */", e.enums s, e.composites c s]))

/-- the whole output for schemas whose blocks are given -/
def frame (blocks : List Layout) : Layout :=
  .stacked
    [.verbatim "", .verbatim Accessors.jsonAlias, .verbatim "",
     .block "export type Database = \x7b" (.stacked blocks) "\x7d",
     .verbatim "", .verbatim "", .verbatim Accessors.text, .verbatim ""]

/-- the whole output -/
def file (e : Emission) (schemas : List Schema) : Except Fault Layout :=
  ((Schema.ordered schemas).mapM e.schema).map frame

/-- the text of the whole output -/
def text (e : Emission) (schemas : List Schema) : Except Fault Text :=
  (e.file schemas).map Layout.text

end Emission

/-- the output for a model, with comments or without -/
def generateTypes (datamodel : Json) (documentation : Bool) : Except Fault Text := do
  let schema ← Schema.ofJson datamodel
  Emission.text { documentation } [schema]

end DatabaseTypes
