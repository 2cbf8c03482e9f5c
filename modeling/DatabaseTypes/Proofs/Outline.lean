import DatabaseTypes.Database
import DatabaseTypes.Proofs.Arranged

/-!
# Outlines

Writing the output has two stages.  The first puts what a schema says in order and can fail, the
second writes it down and cannot.  The outline is what stands between them.

* `Outline`               the entries of the output in their order
* `Schema.outline`        the outline of a schema
* `Emission.page`         the output for an outline
* `Emission.silent`       the same choices, but no comments
* `generateTypes_eq_ok_iff`   the output is the page of the outline of the schema of a model
* `Schema.Keyed`          every key of the schema is the key of a name
-/

namespace DatabaseTypes

/-! ## the two stages -/

/-- what the output says about a table: its columns and its foreign keys are in order -/
structure Outline.Table where
  name : Text
  key : Text
  documentation : List Text
  columns : List Field
  relationships : List Relationship

/-- what the output says, in the order in which it says it -/
structure Outline where
  name : Text
  key : Text
  tables : List Outline.Table
  enums : List Enum
  composites : List Composite

/-- the outline of a table -/
def Table.outline (t : Table) : Except Fault Outline.Table := do
  let relationships ← t.relationships
  let columns ← Order.byName Field.name t.columns
  pure { name := t.name, key := t.key, documentation := t.documentation, columns, relationships }

/-- the outline of a schema -/
def Schema.outline (s : Schema) : Except Fault Outline := do
  let tables ← s.orderedTables.mapM Table.outline
  pure { name := s.name, key := s.key, tables, enums := s.orderedEnums
         composites := s.orderedComposites }

namespace Emission

/-- the entry of a table in an outline -/
def sheet (e : Emission) (c : Classifier) (t : Outline.Table) : Layout :=
  e.tableBlock c { name := t.name, key := t.key, documentation := t.documentation } t.columns
    t.relationships

/-- what decides the types of the fields in an outline -/
def classifierOf (e : Emission) (o : Outline) : Classifier :=
  { scalars := e.scalars, schemaName := o.name }

/-- the sections of a schema -/
def sections (e : Emission) (o : Outline) : List Layout :=
  [braced sectionIndent "Tables" (entries ";\n" (o.tables.map (e.sheet (e.classifierOf o)))),
   placeholder "Views" "/* No support for views */",
   placeholder "Functions" "/* No support for functions */",
   braced sectionIndent "Enums" (entries "\n" (o.enums.map e.enum)),
   braced sectionIndent "CompositeTypes"
    (entries ",\n\n" (o.composites.map (e.composite (e.classifierOf o))))]

/-- the output for an outline -/
def page (e : Emission) (o : Outline) : Layout :=
  frame [braced schemaIndent o.key (.stacked (e.sections o))]

/-- the same choices, but no comments -/
def silent (e : Emission) : Emission := { e with documentation := false }

theorem table_eq_map (e : Emission) (c : Classifier) (t : Table) :
    e.table c t = t.outline.map (e.sheet c) := by
  unfold table Table.outline
  cases t.relationships with
  | error f => rfl
  | ok keys =>
    show (Order.byName Field.name t.columns >>= fun columns => pure (e.tableBlock c t columns keys))
      = Except.map _ (Order.byName Field.name t.columns >>= fun columns => pure _)
    cases Order.byName Field.name t.columns with
    | error f => rfl
    | ok columns => rfl

theorem schema_eq_map (e : Emission) (s : Schema) :
    e.schema s
      = s.outline.map fun o => braced schemaIndent o.key (.stacked (e.sections o)) := by
  have h : s.orderedTables.mapM (e.table (e.classifier s))
      = (s.orderedTables.mapM Table.outline).map (List.map (e.sheet (e.classifier s))) := by
    rw [← Outcome.mapM_map]
    exact congrArg (fun f => s.orderedTables.mapM f) (funext (e.table_eq_map _))
  unfold schema tables Schema.outline
  dsimp only
  rw [h]
  cases s.orderedTables.mapM Table.outline with
  | error f => rfl
  | ok ts => rfl

/-- the text of one schema is the page of its outline -/
theorem text_singleton (e : Emission) (s : Schema) :
    e.text [s] = s.outline.map fun o => (e.page o).text := by
  have h : e.file [s] = ((e.schema s).map fun b => [b]).map frame := by
    show Except.map frame (List.mapM e.schema [s]) = _
    rw [List.mapM_cons]
    cases e.schema s with
    | error f => rfl
    | ok b => rfl
  rw [text, h, schema_eq_map]
  cases s.outline with
  | error f => rfl
  | ok o => rfl

/-- what stands around the block of a schema -/
theorem text_frame (block : Layout) :
    (frame [block]).text
      = ['\n'] ++ Accessors.jsonAlias ++ ['\n', '\n'] ++ "export type Database = ".toList
        ++ ('\x7b' :: (['\n'] ++ block.text ++ ['\n']) ++ ['\x7d'])
        ++ ['\n', '\n', '\n'] ++ Accessors.text ++ ['\n'] := by
  have h : "export type Database = \x7b".toList = "export type Database = ".toList ++ ['\x7b'] := by
    simp
  unfold frame
  rw [h]
  simp [Layout.stacked, Layout.text, Layout.texts, Text.joined]

end Emission

/-- **An output is the page of the outline of the schema that the model describes.** -/
theorem generateTypes_eq_ok_iff {datamodel : Json} {documentation : Bool} {t : Text} :
    generateTypes datamodel documentation = .ok t
      ↔ ∃ s o, Schema.ofJson datamodel = .ok s ∧ s.outline = .ok o
          ∧ (Emission.page { documentation } o).text = t := by
  unfold generateTypes
  rw [Outcome.bind_eq_ok_iff]
  constructor
  · rintro ⟨s, hs, h⟩
    rw [Emission.text_singleton] at h
    obtain ⟨o, ho, h⟩ := Outcome.map_eq_ok_iff.mp h
    exact ⟨s, o, hs, ho, h⟩
  · rintro ⟨s, o, hs, ho, h⟩
    refine ⟨s, hs, ?_⟩
    rw [Emission.text_singleton]
    exact Outcome.map_eq_ok_iff.mpr ⟨o, ho, h⟩

/-! ## what an outline holds -/

/-- the parts of the outline of a table -/
theorem Table.outline_eq_ok {t : Table} {o : Outline.Table} (h : t.outline = .ok o) :
    o.name = t.name ∧ o.key = t.key ∧ o.documentation = t.documentation
      ∧ Order.byName Field.name t.columns = .ok o.columns
      ∧ t.relationships = .ok o.relationships := by
  obtain ⟨keys, hk, h⟩ := Outcome.bind_eq_ok_iff.mp h
  obtain ⟨columns, hc, h⟩ := Outcome.bind_eq_ok_iff.mp h
  cases h
  exact ⟨rfl, rfl, rfl, hc, hk⟩

/-- the columns in an outline are those of the table -/
theorem Table.columns_outline {t : Table} {o : Outline.Table} (h : t.outline = .ok o) :
    o.columns.Perm t.columns :=
  Order.byName_perm (Table.outline_eq_ok h).2.2.2.1

/-- every foreign key in an outline is that of a relation of the table -/
theorem Table.exists_relation {t : Table} {o : Outline.Table} (h : t.outline = .ok o)
    {r : Relationship} (hr : r ∈ o.relationships) :
    ∃ f ∈ t.fields, ∃ l, f.shape = .relation l
      ∧ r = ForeignKey.relationship ⟨f, l⟩ := by
  obtain ⟨keys, hk, e⟩ := Outcome.map_eq_ok_iff.mp (Table.outline_eq_ok h).2.2.2.2
  rw [← e] at hr
  obtain ⟨k, hm, rfl⟩ := List.mem_map.mp hr
  obtain ⟨f, hf, e⟩ := List.mem_filterMap.mp ((Table.foreignKeys_eq_ok_iff.mp hk).perm.mem_iff.mp hm)
  unfold Field.foreignKey? at e
  split at e
  · rename_i l hl
    split at e
    · cases e
      exact ⟨f, hf, l, hl, rfl⟩
    · cases e
  · cases e

/-- the parts of the outline of a schema -/
theorem Schema.outline_eq_ok {s : Schema} {o : Outline} (h : s.outline = .ok o) :
    o.name = s.name ∧ o.key = s.key ∧ s.orderedTables.mapM Table.outline = .ok o.tables
      ∧ o.enums = s.orderedEnums ∧ o.composites = s.orderedComposites := by
  obtain ⟨tables, ht, h⟩ := Outcome.bind_eq_ok_iff.mp h
  cases h
  exact ⟨rfl, rfl, ht, rfl, rfl⟩

/-- every table of an outline is one of the schema -/
theorem Schema.exists_table {s : Schema} {o : Outline} (h : s.outline = .ok o)
    {t : Outline.Table} (ht : t ∈ o.tables) : ∃ u ∈ s.tables, u.outline = .ok t := by
  obtain ⟨u, hu, e⟩ := Outcome.exists_of_mem_mapM (Schema.outline_eq_ok h).2.2.1 ht
  exact ⟨u, (Order.sorted_perm _ _).mem_iff.mp hu, e⟩

/-- the enums of an outline are those of the schema that have a variant -/
theorem Schema.mem_enums {s : Schema} {o : Outline} (h : s.outline = .ok o) {x : Enum} :
    x ∈ o.enums ↔ x ∈ s.enums ∧ x.variants ≠ [] := by
  rw [(Schema.outline_eq_ok h).2.2.2.1, Schema.orderedEnums, Order.byText,
    (Order.sorted_perm _ _).mem_iff, List.mem_filter]
  simp

/-- the composite types of an outline are those of the schema that have a member -/
theorem Schema.mem_composites {s : Schema} {o : Outline} (h : s.outline = .ok o) {x : Composite} :
    x ∈ o.composites ↔ x ∈ s.composites ∧ x.members ≠ [] := by
  rw [(Schema.outline_eq_ok h).2.2.2.2, Schema.orderedComposites, Order.byText,
    (Order.sorted_perm _ _).mem_iff, List.mem_filter]
  simp

/-! ## keys -/

/-- every key is the key of its name -/
structure Schema.Keyed (s : Schema) : Prop where
  name : s.name = Schema.defaultName
  key : s.key = Key.ofName Schema.defaultName
  tables : ∀ t ∈ s.tables, t.key = Key.ofName t.name
  enums : ∀ x ∈ s.enums, x.key = Key.ofName x.name
  composites : ∀ x ∈ s.composites, x.key = Key.ofName x.name

/-- every key of an outline is the key of its name -/
structure Outline.Keyed (o : Outline) : Prop where
  name : o.name = Schema.defaultName
  key : o.key = Key.ofName Schema.defaultName
  tables : ∀ t ∈ o.tables, t.key = Key.ofName t.name
  enums : ∀ x ∈ o.enums, x.key = Key.ofName x.name
  composites : ∀ x ∈ o.composites, x.key = Key.ofName x.name

theorem Outline.Keyed.isIdentifier_name {o : Outline} (h : o.Keyed) :
    Key.isIdentifier o.name = true := by
  rw [h.name]
  decide

theorem Schema.Keyed.outline {s : Schema} {o : Outline} (hs : s.Keyed) (h : s.outline = .ok o) :
    o.Keyed := by
  obtain ⟨hn, hk, _, _, _⟩ := Schema.outline_eq_ok h
  refine ⟨hn.trans hs.name, hk.trans hs.key, fun t ht => ?_, fun x hx => ?_, fun x hx => ?_⟩
  · obtain ⟨u, hu, e⟩ := Schema.exists_table h ht
    obtain ⟨hn, hk, _⟩ := Table.outline_eq_ok e
    rw [hn, hk, hs.tables u hu]
  · exact hs.enums x ((Schema.mem_enums h).mp hx).1
  · exact hs.composites x ((Schema.mem_composites h).mp hx).1

theorem Table.key_ofJson {raw : Json} {t : Table} (h : Table.ofJson raw = .ok t) :
    t.key = Key.ofName t.name := by
  obtain ⟨_, _, h⟩ := Outcome.bind_eq_ok_iff.mp h
  obtain ⟨_, _, h⟩ := Outcome.bind_eq_ok_iff.mp h
  obtain ⟨_, _, h⟩ := Outcome.bind_eq_ok_iff.mp h
  obtain ⟨_, _, h⟩ := Outcome.bind_eq_ok_iff.mp h
  obtain ⟨_, _, h⟩ := Outcome.bind_eq_ok_iff.mp h
  obtain ⟨_, _, h⟩ := Outcome.bind_eq_ok_iff.mp h
  cases h
  rfl

theorem Enum.key_ofJson {raw : Json} {x : Enum} (h : Enum.ofJson raw = .ok x) :
    x.key = Key.ofName x.name := by
  obtain ⟨_, _, h⟩ := Outcome.bind_eq_ok_iff.mp h
  obtain ⟨_, _, h⟩ := Outcome.bind_eq_ok_iff.mp h
  obtain ⟨_, _, h⟩ := Outcome.bind_eq_ok_iff.mp h
  obtain ⟨_, _, h⟩ := Outcome.bind_eq_ok_iff.mp h
  obtain ⟨_, _, h⟩ := Outcome.bind_eq_ok_iff.mp h
  obtain ⟨_, _, h⟩ := Outcome.bind_eq_ok_iff.mp h
  cases h
  rfl

theorem Composite.key_ofJson {raw : Json} {x : Composite} (h : Composite.ofJson raw = .ok x) :
    x.key = Key.ofName x.name := by
  obtain ⟨_, _, h⟩ := Outcome.bind_eq_ok_iff.mp h
  obtain ⟨_, _, h⟩ := Outcome.bind_eq_ok_iff.mp h
  obtain ⟨_, _, h⟩ := Outcome.bind_eq_ok_iff.mp h
  obtain ⟨_, _, h⟩ := Outcome.bind_eq_ok_iff.mp h
  cases h
  rfl

/-- the parts of a schema, as they are read from the lists of a model -/
theorem Schema.ofJson_eq_ok {datamodel : Json} {s : Schema} (h : Schema.ofJson datamodel = .ok s) :
    ∃ models enums types,
      datamodel.elementsAt "models" = .ok models ∧ models.mapM Table.ofJson = .ok s.tables
      ∧ datamodel.elementsAt "enums" = .ok enums ∧ enums.mapM Enum.ofJson = .ok s.enums
      ∧ datamodel.elementsAt "types" = .ok types ∧ types.mapM Composite.ofJson = .ok s.composites
      ∧ s.name = Schema.defaultName ∧ s.key = Key.ofName Schema.defaultName := by
  obtain ⟨models, hm, h⟩ := Outcome.bind_eq_ok_iff.mp h
  obtain ⟨tables, ht, h⟩ := Outcome.bind_eq_ok_iff.mp h
  obtain ⟨enums, he, h⟩ := Outcome.bind_eq_ok_iff.mp h
  obtain ⟨xs, hx, h⟩ := Outcome.bind_eq_ok_iff.mp h
  obtain ⟨types, hy, h⟩ := Outcome.bind_eq_ok_iff.mp h
  obtain ⟨cs, hc, h⟩ := Outcome.bind_eq_ok_iff.mp h
  cases h
  exact ⟨models, enums, types, hm, ht, he, hx, hy, hc, rfl, rfl⟩

theorem Schema.keyed_ofJson {datamodel : Json} {s : Schema} (h : Schema.ofJson datamodel = .ok s) :
    s.Keyed := by
  obtain ⟨models, enums, types, _, ht, _, hx, _, hc, hn, hk⟩ := Schema.ofJson_eq_ok h
  refine ⟨hn, hk, ?_, ?_, ?_⟩
  · intro t hm
    obtain ⟨_, _, e⟩ := Outcome.exists_of_mem_mapM ht hm
    exact Table.key_ofJson e
  · intro x hm
    obtain ⟨_, _, e⟩ := Outcome.exists_of_mem_mapM hx hm
    exact Enum.key_ofJson e
  · intro x hm
    obtain ⟨_, _, e⟩ := Outcome.exists_of_mem_mapM hc hm
    exact Composite.key_ofJson e

end DatabaseTypes
