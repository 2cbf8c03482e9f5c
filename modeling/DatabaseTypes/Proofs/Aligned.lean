import DatabaseTypes.Proofs.Sorted
import DatabaseTypes.Proofs.Unnamed

/-!
# The records of a table

The three records of a table have the same members, and whatever a client may insert it may write to update.

* `Aligned`               the members of a column in the three records
* `Classifier.aligned`    what the members of a column are
* `Admits`               values that a record admits
* `Admits.mono`          a record admits what a stricter one admits
* `Order.pairwise_byName`   what is sorted by names is in their order
* `Emission.table_aligned`   the records of the entry of a table
-/

namespace DatabaseTypes

/-! ## columns -/

/-- what the members of a column are as it is read, inserted and updated -/
structure Aligned (c : Classifier) (f : Field) (row insert update : Projection) : Prop where
  names : row.name = f.name ∧ insert.name = f.name ∧ update.name = f.name
  isOptional_row : row.isOptional = false
  type_row : row.type = if f.isRequired then c.typeOf f else c.typeOf f ++ " | null"
  isOptional_update : update.isOptional = true
  isOptional_insert : insert.isOptional = (f.isGenerated || !f.isRequired || f.hasDefault)
  type_insert : insert.type = if f.isGenerated then "never".toList else row.type
  type_update : update.type = insert.type

theorem Classifier.aligned (c : Classifier) (f : Field) : Aligned c f (c.row f) (c.insert f) (c.update f) := by
  have hread : c.readType f = if f.isRequired then c.typeOf f else c.typeOf f ++ " | null" := by
    unfold readType withNull
    split
    · rfl
    · show c.typeOf f ++ " | ".toList ++ "null".toList = _
      simp
  cases hg : f.isGenerated with
  | true =>
    refine ⟨?_, rfl, hread, ?_, ?_, ?_, ?_⟩ <;> simp [row, insert, update, hg, Projection.forbidden, neverType]
  | false => refine ⟨?_, rfl, hread, ?_, ?_, ?_, ?_⟩ <;> simp [row, insert, update, hg]

/-! ## values -/

section
variable {V : Type} {hasType : V → Text → Prop} {given : Json → Option V}

/-- does a record take the values that are given under some names? A member without a value is optional, a value
is of the type of its member, and there are no values for other names -/
structure Admits (hasType : V → Text → Prop) (members : List Projection) (given : Json → Option V) : Prop where
  absent : ∀ p ∈ members, given p.name = none → p.isOptional = true
  present : ∀ p ∈ members, ∀ v, given p.name = some v → hasType v p.type
  named : ∀ name v, given name = some v → name ∈ members.map Projection.name

/-- a member in place of another one takes at least as much -/
structure Projection.Looser (p q : Projection) : Prop where
  name : q.name = p.name
  type : q.type = p.type
  isOptional : p.isOptional = true → q.isOptional = true

/-- a record takes what a stricter one with the same members takes -/
theorem Admits.mono {f g : Field → Projection} {columns : List Field}
    (h : Admits hasType (columns.map f) given) (hfg : ∀ x ∈ columns, (f x).Looser (g x)) :
    Admits hasType (columns.map g) given where
  absent p hp habsent := by
    obtain ⟨x, hx, rfl⟩ := List.mem_map.mp hp
    rw [(hfg x hx).name] at habsent
    exact (hfg x hx).isOptional (h.absent _ (List.mem_map_of_mem hx) habsent)
  present p hp v hpresent := by
    obtain ⟨x, hx, rfl⟩ := List.mem_map.mp hp
    rw [(hfg x hx).name] at hpresent
    rw [(hfg x hx).type]
    exact h.present _ (List.mem_map_of_mem hx) v hpresent
  named name v hgiven := by
    obtain ⟨p, hp, rfl⟩ := List.mem_map.mp (h.named name v hgiven)
    obtain ⟨x, hx, rfl⟩ := List.mem_map.mp hp
    exact List.mem_map.mpr ⟨g x, List.mem_map_of_mem hx, (hfg x hx).name⟩

end

/-- updating is looser than inserting -/
theorem Aligned.looser {c : Classifier} {f : Field} {row insert update : Projection}
    (h : Aligned c f row insert update) : insert.Looser update where
  name := h.names.2.2.trans h.names.2.1.symm
  type := h.type_update
  isOptional _ := h.isOptional_update

/-! ## records -/

/-- what is sorted by names is in their order -/
theorem Order.pairwise_byName {α : Type} {name : α → Json} {items sorted : List α}
    (h : Order.byName name items = .ok sorted) :
    sorted.Pairwise fun x y =>
      ∃ k l, (name x).sortKey = .ok k ∧ (name y).sortKey = .ok l ∧ k.atMost l = true :=
  (Order.byName_eq_ok_iff.mp h).ordered

/-- **The records of a table have the same members.** Its entry has a record for reading, inserting and updating,
each of which has one member for every field that is no relation, sorted by name, and these are aligned; and whatever
values the record for inserting takes, that for updating takes. A table whose names are texts has an entry. -/
theorem Emission.table_aligned (e : Emission) (c : Classifier) (t : Table) :
    ((∀ f ∈ t.fields, f.Sortable) → ∃ node, e.table c t = .ok node)
    ∧ ∀ node, e.table c t = .ok node → ∃ (columns : List Field) (keys : List Relationship),
      node = .before (e.comment t.documentation)
        (braced entryIndent t.key (.stacked [e.record "Row" (columns.map c.row),
          e.record "Insert" (columns.map c.insert), e.record "Update" (columns.map c.update), relationships keys]))
        entryIndent
      ∧ columns.Perm (t.fields.filter fun f => !f.isRelation)
      ∧ (columns.Pairwise fun f g =>
        ∃ k l, f.name.sortKey = .ok k ∧ g.name.sortKey = .ok l ∧ k.atMost l = true)
      ∧ (columns.map c.row).map Projection.name = columns.map Field.name
      ∧ (columns.map c.insert).map Projection.name = columns.map Field.name
      ∧ (columns.map c.update).map Projection.name = columns.map Field.name
      ∧ (∀ f ∈ columns, Aligned c f (c.row f) (c.insert f) (c.update f))
      ∧ ∀ (V : Type) (hasType : V → Text → Prop) (given : Json → Option V),
        Admits hasType (columns.map c.insert) given → Admits hasType (columns.map c.update) given := by
  constructor
  · intro h
    obtain ⟨o, ho⟩ := Table.exists_outline h
    exact ⟨e.sheet c o, by rw [table_eq_map, ho]; rfl⟩
  · intro node hnode
    obtain ⟨keys, _, h⟩ := Outcome.bind_eq_ok_iff.mp hnode
    obtain ⟨columns, hcolumns, h⟩ := Outcome.bind_eq_ok_iff.mp h
    have haligned (f : Field) : Aligned c f (c.row f) (c.insert f) (c.update f) := c.aligned f
    have hnames {g : Field → Projection} (hg : ∀ f, (g f).name = f.name) :
        (columns.map g).map Projection.name = columns.map Field.name := by
      rw [List.map_map]
      exact List.map_congr_left fun f _ => hg f
    refine ⟨columns, keys, (Except.ok.inj h).symm, Order.byName_perm hcolumns, Order.pairwise_byName hcolumns, ?_⟩
    refine ⟨hnames fun f => (haligned f).names.1, hnames fun f => (haligned f).names.2.1,
      hnames fun f => (haligned f).names.2.2, fun f _ => haligned f, fun V hasType given h => ?_⟩
    exact h.mono fun f _ => (haligned f).looser

/-- a table with fields of every kind -/
def Table.mixed : Table where
  name := "t"
  key := "t"
  fields :=
    [{ name := "id", isGenerated := true, shape := .scalar (some .int) },
     { name := "Kind", isRequired := false, shape := .enum "e" },
     { name := "place", hasDefault := true, shape := .composite "c" },
     { name := "rest", shape := .unsupported "odd" },
     { name := "owner", shape := .relation { name := "r", target := "u" } }]

theorem Emission.table_aligned_mixed : (∀ f ∈ Table.mixed.fields, f.Sortable)
    ∧ ∃ (node : Layout) (columns : List Field), ({} : Emission).table {} Table.mixed = .ok node
      ∧ columns.Perm (Table.mixed.fields.filter fun f => !f.isRelation)
      ∧ (∀ f ∈ columns, Aligned {} f (Classifier.row {} f) (Classifier.insert {} f) (Classifier.update {} f))
      ∧ ∀ (V : Type) (hasType : V → Text → Prop) (given : Json → Option V),
        Admits hasType (columns.map (Classifier.insert {})) given →
          Admits hasType (columns.map (Classifier.update {})) given := by
  have hsortable : ∀ f ∈ Table.mixed.fields, f.Sortable := by
    intro f hf
    simp only [Table.mixed, List.mem_cons, List.not_mem_nil, or_false] at hf
    rcases hf with rfl | rfl | rfl | rfl | rfl
    · exact ⟨rfl, nofun⟩
    · exact ⟨rfl, nofun⟩
    · exact ⟨rfl, nofun⟩
    · exact ⟨rfl, nofun⟩
    · exact ⟨rfl, fun r hr => by cases hr; rfl⟩
  obtain ⟨node, hnode⟩ := (Emission.table_aligned {} {} Table.mixed).1 hsortable
  obtain ⟨columns, _, _, hperm, _, _, _, _, haligned, haccepts⟩ :=
    (Emission.table_aligned {} {} Table.mixed).2 node hnode
  exact ⟨hsortable, node, columns, hnode, hperm, haligned, haccepts⟩

end DatabaseTypes
