import DatabaseTypes.Proofs.Aligned
import DatabaseTypes.Proofs.Arranged
import DatabaseTypes.Proofs.Keys

/-!
# Foreign keys of a table

Every field of a table is either a column, the owner of a foreign key, or the other end of one.  A column is in each
record of the table and in no foreign key, an owner gives one foreign key and is in no record, and the other end of a
foreign key is nowhere.  A foreign key has the columns that the model gives for either side, and both sides have some;
nothing sees to it that there are as many on the one side as on the other.

* `Field.role`                 what becomes of a field
* `Field.foreignKey?_eq_owned?`   the fields that give foreign keys
* `Field.fields_perm`          every field has one role
* `Emission.table_roles`       the entry of a table holds each of its fields by its role
* `Json.OwnedBy`               a table of a model has a field that owns a foreign key
* `generateTypes_owned`        the foreign keys in an output are those that the model says
-/

namespace DatabaseTypes

/-! ## roles -/

/-- what becomes of a field -/
inductive Field.Role where
  | column
  | owner (relation : Relation)
  | otherEnd

/-- a relation with a name and columns on both sides owns a foreign key; any other one is the other end of one -/
def Field.role (f : Field) : Role :=
  match f.shape with
  | .relation r => if r.name.isTruthy = true ∧ r.columns ≠ [] ∧ r.referenced ≠ [] then .owner r else .otherEnd
  | _ => .column

/-- the foreign key that a field owns -/
def Field.owned? (f : Field) : Option ForeignKey :=
  match f.role with
  | .owner r => some ⟨f, r⟩
  | _ => none

/-- is a field the other end of a foreign key? -/
def Field.isOtherEnd (f : Field) : Bool :=
  match f.role with
  | .otherEnd => true
  | _ => false

theorem Relation.isForeignKey_iff (r : Relation) :
    r.isForeignKey = true ↔ r.name.isTruthy = true ∧ r.columns ≠ [] ∧ r.referenced ≠ [] := by
  simp [Relation.isForeignKey, and_assoc]

theorem Field.foreignKey?_eq_owned? (f : Field) : f.foreignKey? = f.owned? := by
  unfold foreignKey? owned? role
  cases f.shape with
  | relation r =>
    by_cases h : r.isForeignKey = true
    · simp only [if_pos h, if_pos (r.isForeignKey_iff.mp h)]
    · simp only [if_neg h, if_neg (fun hr => h (r.isForeignKey_iff.mpr hr))]
  | scalar => rfl
  | enum => rfl
  | composite => rfl
  | unsupported => rfl

theorem Field.role_of_not_isRelation {f : Field} (h : f.isRelation = false) : f.role = .column := by
  unfold isRelation at h
  unfold role
  cases hs : f.shape with
  | relation r =>
    rw [hs] at h
    cases h
  | scalar => rfl
  | enum => rfl
  | composite => rfl
  | unsupported => rfl

theorem Field.role_eq_owner_iff {f : Field} {r : Relation} : f.role = .owner r
    ↔ f.shape = .relation r ∧ r.name.isTruthy = true ∧ r.columns ≠ [] ∧ r.referenced ≠ [] := by
  unfold role
  cases f.shape with
  | relation l =>
    by_cases h : l.name.isTruthy = true ∧ l.columns ≠ [] ∧ l.referenced ≠ []
    · simp only [if_pos h, Role.owner.injEq, Shape.relation.injEq]
      exact ⟨fun e => ⟨e, e ▸ h⟩, And.left⟩
    · simp only [if_neg h]
      exact ⟨nofun, fun ⟨e, hr⟩ => absurd hr (Shape.relation.inj e ▸ h)⟩
  | scalar => exact ⟨nofun, nofun⟩
  | enum => exact ⟨nofun, nofun⟩
  | composite => exact ⟨nofun, nofun⟩
  | unsupported => exact ⟨nofun, nofun⟩

theorem Field.owned?_eq_some_iff {f : Field} {k : ForeignKey} :
    f.owned? = some k ↔ k.field = f ∧ f.role = .owner k.relation := by
  unfold owned?
  cases f.role with
  | owner r =>
    constructor
    · rintro ⟨⟩
      exact ⟨rfl, rfl⟩
    · rintro ⟨rfl, hrole⟩
      cases hrole
      rfl
  | column => exact ⟨nofun, nofun⟩
  | otherEnd => exact ⟨nofun, nofun⟩

theorem Field.role_of_isOtherEnd {f : Field} (h : f.isOtherEnd = true) : f.role = .otherEnd := by
  unfold isOtherEnd at h
  split at h
  · assumption
  · cases h

/-- a field has one of the roles only -/
theorem Field.roles (f : Field) : (f.isRelation = false ∧ f.owned? = none ∧ f.isOtherEnd = false)
    ∨ (f.isRelation = true ∧ (∃ r, f.owned? = some ⟨f, r⟩) ∧ f.isOtherEnd = false)
    ∨ (f.isRelation = true ∧ f.owned? = none ∧ f.isOtherEnd = true) := by
  unfold isRelation owned? isOtherEnd role
  cases f.shape with
  | relation r =>
    by_cases h : r.name.isTruthy = true ∧ r.columns ≠ [] ∧ r.referenced ≠ []
    · refine .inr (.inl ⟨rfl, ⟨r, ?_⟩, ?_⟩) <;> simp only [if_pos h]
    · refine .inr (.inr ⟨rfl, ?_, ?_⟩) <;> simp only [if_neg h]
  | scalar => exact .inl ⟨rfl, rfl, rfl⟩
  | enum => exact .inl ⟨rfl, rfl, rfl⟩
  | composite => exact .inl ⟨rfl, rfl, rfl⟩
  | unsupported => exact .inl ⟨rfl, rfl, rfl⟩

/-- every field is a column, an owner or an other end -/
theorem Field.fields_perm (fields : List Field) :
    fields.Perm ((fields.filter fun f => !f.isRelation) ++ (fields.filterMap owned?).map ForeignKey.field
      ++ fields.filter isOtherEnd) := by
  induction fields with
  | nil => exact List.Perm.refl _
  | cons f fields ih =>
    rcases f.roles with ⟨hrelation, howned, hend⟩ | ⟨hrelation, ⟨r, howned⟩, hend⟩ | ⟨hrelation, howned, hend⟩
    · simp only [List.filter_cons, List.filterMap_cons, hrelation, howned, hend]
      exact ih.cons f
    · simp only [List.filter_cons, List.filterMap_cons, hrelation, howned, hend]
      refine (ih.cons f).trans ?_
      rw [List.append_assoc, List.append_assoc]
      exact List.perm_middle.symm
    · simp only [List.filter_cons, List.filterMap_cons, hrelation, howned, hend]
      exact (ih.cons f).trans List.perm_middle.symm

/-! ## entries -/

/-- **Every field of a table shows by its role.** Of a table whose names are texts, each field is a column, the owner
of a foreign key or the other end of one. The foreign keys of the table are those of the owners, in the order of the
names of the fields and the relations and otherwise as declared, and say what the owners say; the entry of the table
has each column in each of its records and nothing else, and these foreign keys. -/
theorem Emission.table_roles (e : Emission) (c : Classifier) {t : Table} (h : ∀ f ∈ t.fields, f.Sortable) :
    ∃ (columns : List Field) (owners : List ForeignKey) (ends : List Field),
      t.fields.Perm (columns ++ owners.map ForeignKey.field ++ ends)
      ∧ (∀ f ∈ columns, f.role = .column) ∧ (∀ k ∈ owners, k.field.role = .owner k.relation)
      ∧ (∀ f ∈ ends, f.role = .otherEnd)
      ∧ Order.Arranged ForeignKey.SortKey.atMost ForeignKey.sortKey (t.fields.filterMap Field.owned?) owners
      ∧ t.relationships = .ok (owners.map fun k => ⟨k.relation.name, k.relation.columns, !k.field.isList,
        k.relation.target, k.relation.referenced⟩)
      ∧ e.table c t = .ok (.before (e.comment t.documentation)
        (braced entryIndent t.key (.stacked [e.record "Row" (columns.map c.row),
          e.record "Insert" (columns.map c.insert), e.record "Update" (columns.map c.update),
          relationships (owners.map ForeignKey.relationship)]))
        entryIndent) := by
  have howned : t.fields.filterMap Field.foreignKey? = t.fields.filterMap Field.owned? :=
    congrArg t.fields.filterMap (funext Field.foreignKey?_eq_owned?)
  obtain ⟨rs, hrs⟩ := Table.exists_relationships h
  obtain ⟨owners, howners, rfl⟩ := Outcome.map_eq_ok_iff.mp hrs
  have harranged := Table.foreignKeys_eq_ok_iff.mp howners
  rw [howned] at harranged
  obtain ⟨columns, hcolumns⟩ := Order.exists_byName Field.name t.columns
    fun f hf => (h f (List.mem_filter.mp hf).1).name
  have hperm : columns.Perm (t.fields.filter fun f => !f.isRelation) := Order.byName_perm hcolumns
  refine ⟨columns, owners, t.fields.filter Field.isOtherEnd, ?_, ?_, ?_, ?_, harranged, hrs, ?_⟩
  · refine (Field.fields_perm t.fields).trans (List.Perm.append_right _ ?_)
    exact (hperm.symm.append_right _).trans ((harranged.perm.symm.map _).append_left _)
  · intro f hf
    have hcolumn := (List.mem_filter.mp (hperm.mem_iff.mp hf)).2
    exact Field.role_of_not_isRelation (by simpa using hcolumn)
  · intro k hk
    obtain ⟨f, _, hf⟩ := List.mem_filterMap.mp (harranged.perm.mem_iff.mp hk)
    obtain ⟨rfl, hrole⟩ := Field.owned?_eq_some_iff.mp hf
    exact hrole
  · intro f hf
    exact Field.role_of_isOtherEnd (List.mem_filter.mp hf).2
  · exact Outcome.bind_eq_ok_iff.mpr ⟨_, hrs, Outcome.bind_eq_ok_iff.mpr ⟨columns, hcolumns, rfl⟩⟩

/-- a table with two owners, a column and the other end of a foreign key -/
def Table.linked : Table where
  name := "Post"
  key := "Post"
  fields :=
    [{ name := "thread", shape := .relation
        { name := "PostToThread", target := "Thread", columns := ["board", "number"], referenced := ["board", "id"] } },
     { name := "number", shape := .scalar (some .int) },
     { name := "Author", isList := true, shape := .relation
        { name := "PostToUser", target := "User", columns := ["authorId"], referenced := ["id"] } },
     { name := "replies", isList := true, shape := .relation { name := "Replies", target := "Post" } }]

theorem Emission.table_roles_linked : (∀ f ∈ Table.linked.fields, f.Sortable)
    ∧ Table.linked.relationships = .ok
      [⟨"PostToUser", ["authorId"], false, "User", ["id"]⟩,
       ⟨"PostToThread", ["board", "number"], true, "Thread", ["board", "id"]⟩]
    ∧ ∃ (columns : List Field) (owners : List ForeignKey) (ends : List Field) (node : Layout),
      Table.linked.fields.Perm (columns ++ owners.map ForeignKey.field ++ ends)
      ∧ (∀ f ∈ columns, f.role = .column) ∧ (∀ k ∈ owners, k.field.role = .owner k.relation)
      ∧ (∀ f ∈ ends, f.role = .otherEnd) ∧ ({} : Emission).table {} Table.linked = .ok node := by
  have hsortable : ∀ f ∈ Table.linked.fields, f.Sortable := by
    intro f hf
    simp only [Table.linked, List.mem_cons, List.not_mem_nil, or_false] at hf
    rcases hf with rfl | rfl | rfl | rfl
    · exact ⟨rfl, fun r hr => by cases hr; rfl⟩
    · exact ⟨rfl, nofun⟩
    · exact ⟨rfl, fun r hr => by cases hr; rfl⟩
    · exact ⟨rfl, fun r hr => by cases hr; rfl⟩
  obtain ⟨columns, owners, ends, hperm, hcolumns, howners, hends, _, _, hnode⟩ :=
    Emission.table_roles {} {} hsortable
  exact ⟨hsortable, rfl, columns, owners, ends, _, hperm, hcolumns, howners, hends, hnode⟩

/-! ## fields of a model -/

/-- a field of a model is a relation with a name and columns on both sides -/
structure Json.OwnsKey (raw : Json) (columns referenced : List Json) : Prop where
  kind : raw.lookup "kind" = .ok (some (.text "object"))
  named : ∃ name, raw.lookup "relationName" = .ok (some name) ∧ name.isTruthy = true
  columns_eq : raw.elementsAt "relationFromFields" = .ok columns
  referenced_eq : raw.elementsAt "relationToFields" = .ok referenced
  columns_ne : columns ≠ []
  referenced_ne : referenced ≠ []

/-- a table of a model with this name has such a field -/
def Json.OwnedBy (datamodel : Json) (table : Text) (columns referenced : List Json) : Prop :=
  ∃ models model fields field, datamodel.elementsAt "models" = .ok models ∧ model ∈ models
    ∧ model.demand "name" = .ok (.text table) ∧ model.elementsAt "fields" = .ok fields ∧ field ∈ fields
    ∧ field.OwnsKey columns referenced

theorem Json.truthy?_eq_some_iff {v w : Json} : v.truthy? = some w ↔ w = v ∧ v.isTruthy = true := by
  unfold truthy?
  split
  · rename_i h
    simp [h, eq_comm]
  · rename_i h
    simp [h]

section
variable {raw : Json} {columns referenced : List Json}

/-- what a field holds is a relation only if the model says so, and then the relation is as the model says -/
theorem Shape.relation_of_ofJson {kind : Json} {typeName : Text} {relation : Option Json} {r : Relation}
    (h : Shape.ofJson raw kind typeName relation = .ok (.relation r)) :
    kind = .text "object" ∧ relation = some r.name ∧ raw.elementsAt "relationFromFields" = .ok r.columns
      ∧ raw.elementsAt "relationToFields" = .ok r.referenced := by
  unfold Shape.ofJson at h
  split at h
  · split at h
    · cases h
    split at h
    · cases h
    split at h
    · rename_i hobject
      split at h
      · cases h
      · obtain ⟨cs, hcs, h⟩ := Outcome.bind_eq_ok_iff.mp h
        obtain ⟨rs, hrs, h⟩ := Outcome.bind_eq_ok_iff.mp h
        cases h
        exact ⟨by rw [hobject], rfl, hcs, hrs⟩
    · cases h
  · cases h

theorem Shape.ofJson_object {typeName : Text} {name : Json} (hc : raw.elementsAt "relationFromFields" = .ok columns)
    (hr : raw.elementsAt "relationToFields" = .ok referenced) :
    Shape.ofJson raw (.text "object") typeName (some name)
      = .ok (.relation { name, target := typeName, columns, referenced }) :=
  Outcome.bind_eq_ok_iff.mpr ⟨columns, hc, Outcome.bind_eq_ok_iff.mpr ⟨referenced, hr, rfl⟩⟩

/-- what a field holds is read from its kind, its type and its relation -/
theorem Field.shape_ofJson {f : Field} (h : Field.ofJson raw = .ok f) : ∃ kind relation typeName,
    raw.lookup "kind" = .ok kind ∧ raw.lookup "relationName" = .ok relation
      ∧ Shape.ofJson raw (kind.getD .null) typeName (relation.bind Json.truthy?) = .ok f.shape := by
  obtain ⟨kind, hkind, h⟩ := Outcome.bind_eq_ok_iff.mp h
  obtain ⟨_, _, h⟩ := Outcome.bind_eq_ok_iff.mp h
  obtain ⟨relation, hrelation, h⟩ := Outcome.bind_eq_ok_iff.mp h
  obtain ⟨_, _, h⟩ := Outcome.bind_eq_ok_iff.mp h
  obtain ⟨_, _, h⟩ := Outcome.bind_eq_ok_iff.mp h
  obtain ⟨_, _, h⟩ := Outcome.bind_eq_ok_iff.mp h
  obtain ⟨_, _, h⟩ := Outcome.bind_eq_ok_iff.mp h
  obtain ⟨_, _, h⟩ := Outcome.bind_eq_ok_iff.mp h
  obtain ⟨_, _, h⟩ := Outcome.bind_eq_ok_iff.mp h
  obtain ⟨_, _, h⟩ := Outcome.bind_eq_ok_iff.mp h
  obtain ⟨_, _, h⟩ := Outcome.bind_eq_ok_iff.mp h
  obtain ⟨shape, hshape, h⟩ := Outcome.bind_eq_ok_iff.mp h
  cases h
  exact ⟨kind, relation, _, hkind, hrelation, hshape⟩

/-- a field owns a foreign key with certain columns exactly if the model says so -/
theorem Field.owns_ofJson {f : Field} (h : Field.ofJson raw = .ok f) :
    (∃ r, f.role = .owner r ∧ r.columns = columns ∧ r.referenced = referenced)
      ↔ raw.OwnsKey columns referenced := by
  obtain ⟨kind, relation, typeName, hkind, hrelation, hshape⟩ := Field.shape_ofJson h
  constructor
  · rintro ⟨r, hrole, rfl, rfl⟩
    obtain ⟨hf, hname, hcolumns, hreferenced⟩ := Field.role_eq_owner_iff.mp hrole
    rw [hf] at hshape
    obtain ⟨hobject, hsome, hcs, hrs⟩ := Shape.relation_of_ofJson hshape
    obtain ⟨name, hn, htruthy⟩ := Option.bind_eq_some_iff.mp hsome
    obtain ⟨rfl, _⟩ := Json.truthy?_eq_some_iff.mp htruthy
    refine ⟨?_, ⟨_, by rw [hrelation, hn], hname⟩, hcs, hrs, hcolumns, hreferenced⟩
    cases kind with
    | none => cases hobject
    | some k => rw [hkind, show k = .text "object" from hobject]
  · rintro ⟨hobject, ⟨name, hn, htruthy⟩, hcs, hrs, hcolumns, hreferenced⟩
    cases hkind.symm.trans hobject
    cases hrelation.symm.trans hn
    have hsome : (some name).bind Json.truthy? = some name := Json.truthy?_eq_some_iff.mpr ⟨rfl, htruthy⟩
    rw [hsome] at hshape
    have hf := Except.ok.inj (hshape.symm.trans (Shape.ofJson_object hcs hrs))
    exact ⟨_, Field.role_eq_owner_iff.mpr ⟨hf, htruthy, hcolumns, hreferenced⟩, rfl, rfl⟩

end

/-! ## tables -/

theorem Table.ofJson_eq_ok {raw : Json} {t : Table} (h : Table.ofJson raw = .ok t) :
    ∃ fields, raw.demand "name" = .ok (.text t.name) ∧ raw.elementsAt "fields" = .ok fields
      ∧ fields.mapM Field.ofJson = .ok t.fields := by
  obtain ⟨name, hname, h⟩ := Outcome.bind_eq_ok_iff.mp h
  obtain ⟨text, htext, h⟩ := Outcome.bind_eq_ok_iff.mp h
  obtain ⟨fields, hfields, h⟩ := Outcome.bind_eq_ok_iff.mp h
  obtain ⟨_, hread, h⟩ := Outcome.bind_eq_ok_iff.mp h
  obtain ⟨_, _, h⟩ := Outcome.bind_eq_ok_iff.mp h
  obtain ⟨_, _, h⟩ := Outcome.bind_eq_ok_iff.mp h
  cases h
  cases name with
  | text t =>
    cases htext
    exact ⟨fields, hname, hfields, hread⟩
  | null => cases htext
  | bool => cases htext
  | int => cases htext
  | float => cases htext
  | list => cases htext
  | object => cases htext

/-- the foreign keys in the outline of a table are those that its fields own -/
theorem Table.mem_relationships {t : Table} {u : Outline.Table} (h : t.outline = .ok u) {r : Relationship} :
    r ∈ u.relationships ↔ ∃ f ∈ t.fields, ∃ l, f.role = .owner l ∧ ForeignKey.relationship ⟨f, l⟩ = r := by
  obtain ⟨keys, hkeys, hmap⟩ := Outcome.map_eq_ok_iff.mp (Table.outline_eq_ok h).2.2.2.2
  have hperm := (Table.foreignKeys_eq_ok_iff.mp hkeys).perm
  rw [← hmap, List.mem_map]
  constructor
  · rintro ⟨k, hk, rfl⟩
    obtain ⟨f, hf, hkey⟩ := List.mem_filterMap.mp (hperm.mem_iff.mp hk)
    obtain ⟨rfl, hrole⟩ := Field.owned?_eq_some_iff.mp (f.foreignKey?_eq_owned? ▸ hkey)
    exact ⟨_, hf, _, hrole, rfl⟩
  · rintro ⟨f, hf, l, hrole, rfl⟩
    refine ⟨⟨f, l⟩, hperm.mem_iff.mpr (List.mem_filterMap.mpr ⟨f, hf, ?_⟩), rfl⟩
    rw [f.foreignKey?_eq_owned?]
    exact Field.owned?_eq_some_iff.mpr ⟨rfl, hrole⟩

/-- the outline of the schema of a model has a foreign key with certain columns exactly if the model says so -/
theorem Schema.exists_relationship_iff {datamodel : Json} {s : Schema} {o : Outline}
    (hs : Schema.ofJson datamodel = .ok s) (ho : s.outline = .ok o) {table : Text} {columns referenced : List Json} :
    (∃ u ∈ o.tables, u.name = table ∧ ∃ r ∈ u.relationships, r.columns = columns ∧ r.referenced = referenced)
      ↔ datamodel.OwnedBy table columns referenced := by
  obtain ⟨models, _, _, hmodels, htables, _⟩ := Schema.ofJson_eq_ok hs
  constructor
  · rintro ⟨u, hu, rfl, r, hr, rfl, rfl⟩
    obtain ⟨t, ht, houtline⟩ := Schema.exists_table ho hu
    obtain ⟨model, hmodel, htable⟩ := Outcome.exists_of_mem_mapM htables ht
    obtain ⟨fields, hname, hfields, hread⟩ := Table.ofJson_eq_ok htable
    obtain ⟨f, hf, l, hrole, rfl⟩ := (Table.mem_relationships houtline).mp hr
    obtain ⟨field, hfield, hofJson⟩ := Outcome.exists_of_mem_mapM hread hf
    rw [(Table.outline_eq_ok houtline).1]
    exact ⟨models, model, fields, field, hmodels, hmodel, hname, hfields, hfield,
      (Field.owns_ofJson hofJson).mp ⟨l, hrole, rfl, rfl⟩⟩
  · rintro ⟨models', model, fields, field, hmodels', hmodel, hname, hfields, hfield, howns⟩
    cases hmodels.symm.trans hmodels'
    obtain ⟨t, ht, htable⟩ := Outcome.exists_mem_of_mapM htables hmodel
    obtain ⟨fields', hname', hfields', hread⟩ := Table.ofJson_eq_ok htable
    cases hname.symm.trans hname'
    cases hfields.symm.trans hfields'
    obtain ⟨f, hf, hofJson⟩ := Outcome.exists_mem_of_mapM hread hfield
    obtain ⟨l, hrole, hcolumns, hreferenced⟩ := (Field.owns_ofJson hofJson).mpr howns
    have hordered : t ∈ s.orderedTables := (Order.sorted_perm _ _).mem_iff.mpr ht
    obtain ⟨u, hu, houtline⟩ := Outcome.exists_mem_of_mapM (Schema.outline_eq_ok ho).2.2.1 hordered
    exact ⟨u, hu, (Table.outline_eq_ok houtline).1, _,
      (Table.mem_relationships houtline).mpr ⟨f, hf, l, hrole, rfl⟩, hcolumns, hreferenced⟩

/-! ## outputs -/

theorem Emission.within_relationship {e : Emission} {o : Outline} {u : Outline.Table} (hu : u ∈ o.tables)
    {r : Relationship} (hr : r ∈ u.relationships) : (relationship r).Within (e.page o) := by
  have hkeys : (relationship r).Within (relationships u.relationships) :=
    .block (.joined (List.mem_map_of_mem hr) .self)
  refine within_page (within_sheet hu (.before _ _ (.block ?_)))
  exact .joined (by simp) hkeys

/-- **An output has the foreign keys of its model with their columns.** The foreign keys in an output are those of the
relations in the model that have a name and columns on both sides, and they have the columns that the model gives for
either side.  So both sides of a foreign key have a column, and all of them have as many on the one side as on the
other exactly if it is so in the model. -/
theorem generateTypes_owned {datamodel : Json} {documentation : Bool} {t : Text}
    (h : generateTypes datamodel documentation = .ok t) : ∃ s o, Schema.ofJson datamodel = .ok s
    ∧ s.outline = .ok o ∧ (Emission.page { documentation } o).text = t
    ∧ (∀ u ∈ o.tables, ∀ r ∈ u.relationships, (Emission.relationship r).text <:+: t ∧ r.columns ≠ []
      ∧ r.referenced ≠ [] ∧ datamodel.OwnedBy u.name r.columns r.referenced)
    ∧ (∀ table columns referenced, datamodel.OwnedBy table columns referenced → ∃ u ∈ o.tables, u.name = table
      ∧ ∃ r ∈ u.relationships, r.columns = columns ∧ r.referenced = referenced)
    ∧ ((∀ u ∈ o.tables, ∀ r ∈ u.relationships, r.columns.length = r.referenced.length)
      ↔ ∀ table columns referenced, datamodel.OwnedBy table columns referenced
        → columns.length = referenced.length) := by
  obtain ⟨s, o, hs, ho, rfl⟩ := generateTypes_eq_ok_iff.mp h
  have howned {u : Outline.Table} (hu : u ∈ o.tables) {r : Relationship} (hr : r ∈ u.relationships) :
      datamodel.OwnedBy u.name r.columns r.referenced :=
    (Schema.exists_relationship_iff hs ho).mp ⟨u, hu, rfl, r, hr, rfl, rfl⟩
  refine ⟨s, o, hs, ho, rfl, fun u hu r hr => ?_, fun table columns referenced hkey => ?_, ?_, ?_⟩
  · obtain ⟨_, _, _, _, _, _, _, _, _, hfield⟩ := howned hu hr
    exact ⟨(Emission.within_relationship hu hr).isInfix, hfield.columns_ne, hfield.referenced_ne, howned hu hr⟩
  · exact (Schema.exists_relationship_iff hs ho).mpr hkey
  · intro hpaired table columns referenced hkey
    obtain ⟨u, hu, _, r, hr, rfl, rfl⟩ := (Schema.exists_relationship_iff hs ho).mpr hkey
    exact hpaired u hu r hr
  · intro hpaired u hu r hr
    exact hpaired _ _ _ (howned hu hr)

/-- a model with a foreign key of two columns that refers to one -/
def Json.unpaired : Json :=
  .object
    [("models", .list [.object [("name", "Post"),
       ("fields", .list [.object [("name", "thread"), ("kind", "object"), ("type", "Thread"),
         ("relationName", "PostToThread"), ("relationFromFields", .list ["board", "number"]),
         ("relationToFields", .list ["id"])]])]])]

theorem generateTypes_owned_unpaired : ∃ t s o, generateTypes .unpaired true = .ok t
    ∧ Schema.ofJson .unpaired = .ok s ∧ s.outline = .ok o
    ∧ ∀ u ∈ o.tables, ∀ r ∈ u.relationships, r.columns ≠ [] ∧ r.referenced ≠ [] := by
  obtain ⟨t, ht⟩ : ∃ t, generateTypes .unpaired true = .ok t := ⟨_, rfl⟩
  obtain ⟨s, o, hs, ho, _, hkeys, _⟩ := generateTypes_owned ht
  exact ⟨t, s, o, ht, hs, ho, fun u hu r hr => ⟨(hkeys u hu r hr).2.1, (hkeys u hu r hr).2.2.1⟩⟩

/-- the foreign key is in the output, although there are more columns on the one side than on the other -/
theorem generateTypes_unpaired : ∃ t s o, generateTypes .unpaired true = .ok t ∧ Schema.ofJson .unpaired = .ok s
    ∧ s.outline = .ok o ∧ ∃ u ∈ o.tables, ∃ r ∈ u.relationships, r.columns.length = 2 ∧ r.referenced.length = 1
      ∧ (Emission.relationship r).text <:+: t := by
  obtain ⟨t, ht⟩ : ∃ t, generateTypes .unpaired true = .ok t := ⟨_, rfl⟩
  obtain ⟨s, o, hs, ho, rfl⟩ := generateTypes_eq_ok_iff.mp ht
  have howned : Json.unpaired.OwnedBy "Post" ["board", "number"] ["id"] :=
    ⟨_, _, _, _, rfl, List.mem_singleton_self _, rfl, rfl, List.mem_singleton_self _,
      { kind := rfl, named := ⟨_, rfl, rfl⟩, columns_eq := rfl, referenced_eq := rfl
        columns_ne := by simp, referenced_ne := by simp }⟩
  obtain ⟨u, hu, _, r, hr, hcolumns, hreferenced⟩ := (Schema.exists_relationship_iff hs ho).mpr howned
  refine ⟨_, s, o, ht, hs, ho, u, hu, r, hr, ?_, ?_, (Emission.within_relationship hu hr).isInfix⟩
  · rw [hcolumns]
    rfl
  · rw [hreferenced]
    rfl

end DatabaseTypes
