import DatabaseTypes.Proofs.Aligned
import DatabaseTypes.Proofs.Keys
import DatabaseTypes.Proofs.Quoted

/-!
# References as paths

The type of a column of an enum or a composite type is written as the path to the entry of that: three names between
single quotes, as they are.  It is the path if the names are what a reader takes the texts between the quotes for.

* `IsPath`                   three string literals that stand for a schema, a section and a name
* `isPath_reference_iff`     when a reference is the path that it should be
* `Schema.Referent`          the entry to which a field refers
* `Emission.HasEntry`        an output has an entry under a key
* `Emission.isPath_typeOf_iff`   when the type of a column leads to the entry of its type
-/

namespace DatabaseTypes

/-! ## paths -/

/-- a type is the path of an entry: three string literals in brackets, which stand for the names of a schema, of a
section and of an entry -/
def IsPath (type schema part name : Text) : Prop :=
  ∃ a b c, type = "Database".toList ++ ('[' :: a ++ [']']) ++ ('[' :: b ++ [']']) ++ ('[' :: c ++ [']'])
    ∧ Quoted.Literal '\'' a schema ∧ Quoted.Literal '\'' b part ∧ Quoted.Literal '\'' c name

/-- a reference is the path of an entry exactly if its names stand for themselves between single quotes -/
theorem isPath_reference_iff (c : Classifier) (part name : Text) :
    IsPath (c.reference part name) c.schemaName part name
      ↔ c.schemaName.all (Quoted.isPlain '\'') = true ∧ part.all (Quoted.isPlain '\'') = true
        ∧ name.all (Quoted.isPlain '\'') = true := by
  constructor
  · rintro ⟨_, _, _, e, ⟨t, rfl, ht⟩, ⟨u, rfl, hu⟩, ⟨v, rfl, hv⟩⟩
    rw [Classifier.reference_eq] at e
    -- no text is shorter than what it stands for, and all of them together are as long
    have hlength := congrArg List.length e
    simp only [List.length_append, List.length_cons, List.length_nil] at hlength
    obtain ⟨ht, ht'⟩ := ht.length_le
    obtain ⟨hu, hu'⟩ := hu.length_le
    obtain ⟨hv, hv'⟩ := hv.length_le
    obtain ⟨rfl, hplain⟩ := hu' (by omega)
    obtain ⟨rfl, hplain'⟩ := hv' (by omega)
    obtain ⟨hschema, hplain''⟩ := ht' (by omega)
    rw [hschema]
    exact ⟨hplain'', hplain, hplain'⟩
  · rintro ⟨hschema, hpart, hname⟩
    exact ⟨_, _, _, c.reference_eq part name, ⟨_, rfl, Quoted.denotes_of_isPlain hschema⟩,
      ⟨_, rfl, Quoted.denotes_of_isPlain hpart⟩, ⟨_, rfl, Quoted.denotes_of_isPlain hname⟩⟩

theorem Key.names_of_isPlain {name : Text} (h : name.all (Quoted.isPlain '\'') = true) :
    Names (ofName name) name := by
  refine (names_ofName name).mpr fun hended => ?_
  exact absurd (List.all_eq_true.mp h '\n' (List.mem_of_getLast? hended.1)) (by decide)

/-! ## entries -/

/-- every key by which the types of a schema are found is the key of a name -/
structure Schema.Escaped (s : Schema) : Prop where
  key : s.key = Key.ofName s.name
  enums : ∀ x ∈ s.enums, x.key = Key.ofName x.name
  composites : ∀ x ∈ s.composites, x.key = Key.ofName x.name

theorem Schema.Keyed.escaped {s : Schema} (h : s.Keyed) : s.Escaped :=
  ⟨by rw [h.key, h.name], h.enums, h.composites⟩

/-- a field is of a type that the schema declares and that has an entry: the section, the name and the key of that -/
inductive Schema.Referent (s : Schema) : Shape → Text → Text → Text → Prop where
  | enum {x : Enum} (hx : x ∈ s.enums) (hvariants : x.variants ≠ []) :
    s.Referent (.enum x.name) "Enums" x.name x.key
  | composite {x : Composite} (hx : x ∈ s.composites) (hmembers : x.members ≠ []) :
    s.Referent (.composite x.name) "CompositeTypes" x.name x.key

namespace Schema.Referent

variable {s : Schema} {part name key : Text}

theorem key_eq {shape : Shape} (h : s.Referent shape part name key) (hs : s.Escaped) : key = Key.ofName name := by
  cases h with
  | enum hx => exact hs.enums _ hx
  | composite hx => exact hs.composites _ hx

theorem isPlain_part {shape : Shape} (h : s.Referent shape part name key) :
    part.all (Quoted.isPlain '\'') = true := by
  cases h <;> decide

variable {f : Field} (h : s.Referent f.shape part name key)
include h

theorem typeOf_eq (c : Classifier) : c.typeOf f = c.reference part name := by
  unfold Classifier.typeOf
  generalize f.shape = shape at h
  cases h <;> rfl

theorem isRelation_eq : f.isRelation = false := by
  unfold Field.isRelation
  generalize f.shape = shape at h
  cases h <;> rfl

end Schema.Referent

namespace Emission

/-- how an entry with a key begins -/
def keyOpening (key : Text) : Text := entryIndent ++ key ++ ": "

/-- an output has an entry under a key: in the block of a schema, in a section of that -/
def HasEntry (schemaKey part key t : Text) : Prop :=
  ∃ inside entries, (braced schemaIndent schemaKey (.verbatim inside)).text <:+: t
    ∧ (braced sectionIndent part (.verbatim entries)).text <:+: inside ∧ keyOpening key <:+: entries

variable {e : Emission} {o : Outline}

theorem hasEntry_blockOf {part key separator : Text} {nodes : List Layout} {node : Layout} {t : Text}
    (ht : (e.blockOf o).text <:+: t) (hpart : braced sectionIndent part (entries separator nodes) ∈ e.sections o)
    (hnode : node ∈ nodes) (hkey : keyOpening key <:+: node.text) : HasEntry o.key part key t := by
  refine ⟨(Layout.stacked (e.sections o)).text, (entries separator nodes).text, ht, ?_, ?_⟩
  · have hwithin : (braced sectionIndent part (entries separator nodes)).Within (.stacked (e.sections o)) :=
      .joined hpart .self
    exact hwithin.isInfix
  · exact hkey.trans (within_entries hnode .self).isInfix

theorem hasEntry_enum {x : Enum} {t : Text} (ht : (e.blockOf o).text <:+: t) (hx : x ∈ o.enums) :
    HasEntry o.key "Enums" x.key t := by
  have hline : (Layout.verbatim (enumLine x)).Within (e.enum x) := .before _ _ .self
  have hpart : braced sectionIndent "Enums" (entries "\n" (o.enums.map e.enum)) ∈ e.sections o :=
    List.mem_cons_of_mem _ (List.mem_cons_of_mem _ (List.mem_cons_of_mem _ List.mem_cons_self))
  have hkey : keyOpening x.key <:+: enumLine x := (List.prefix_append _ _).isInfix
  exact hasEntry_blockOf ht hpart (List.mem_map_of_mem hx) (hkey.trans hline.isInfix)

theorem hasEntry_composite {x : Composite} {t : Text} (ht : (e.blockOf o).text <:+: t) (hx : x ∈ o.composites) :
    HasEntry o.key "CompositeTypes" x.key t := by
  have hopening : openingLine x.key <:+: (e.composite (e.classifierOf o) x).text :=
    Layout.Within.isInfix_opening _ _ _
  have hpart : braced sectionIndent "CompositeTypes"
      (entries ",\n\n" (o.composites.map (e.composite (e.classifierOf o)))) ∈ e.sections o := by
    simp [sections]
  have hkey : keyOpening x.key <:+: openingLine x.key := ⟨[], ['\x7b'], by simp [openingLine, keyOpening]⟩
  exact hasEntry_blockOf ht hpart (List.mem_map_of_mem hx) (hkey.trans hopening)

/-! ## outputs -/

/-- the block of every schema is part of the output -/
theorem exists_blockOf {schemas : List Schema} {t : Text} (h : e.text schemas = .ok t) {s : Schema}
    (hs : s ∈ schemas) : ∃ o node, s.outline = .ok o ∧ (e.blockOf o).Within node ∧ t = node.text := by
  obtain ⟨node, hnode, rfl⟩ := Outcome.map_eq_ok_iff.mp h
  obtain ⟨blocks, hblocks, rfl⟩ := Outcome.map_eq_ok_iff.mp hnode
  obtain ⟨block, hmem, hblock⟩ := Outcome.exists_mem_of_mapM hblocks ((Order.sorted_perm _ _).mem_iff.mpr hs)
  rw [schema_eq_map] at hblock
  obtain ⟨o, ho, rfl⟩ := Outcome.map_eq_ok_iff.mp hblock
  exact ⟨o, _, ho, within_frame hmem .self, rfl⟩

section
variable {schemas : List Schema} {t : Text} (h : e.text schemas = .ok t) {s : Schema} (hs : s ∈ schemas)
include h hs

theorem hasEntry_of_referent {shape : Shape} {part name key : Text} (hreferent : s.Referent shape part name key) :
    HasEntry s.key part key t := by
  obtain ⟨o, node, ho, hwithin, rfl⟩ := exists_blockOf h hs
  rw [← (Schema.outline_eq_ok ho).2.1]
  cases hreferent with
  | enum hx hvariants => exact hasEntry_enum hwithin.isInfix ((Schema.mem_enums ho).mpr ⟨hx, hvariants⟩)
  | composite hx hmembers =>
    exact hasEntry_composite hwithin.isInfix ((Schema.mem_composites ho).mpr ⟨hx, hmembers⟩)

theorem isInfix_memberLine {u : Table} (hu : u ∈ s.tables) {f : Field} (hf : f ∈ u.fields)
    (hrelation : f.isRelation = false) {p : Projection}
    (hp : p = (e.classifier s).row f ∨ p = (e.classifier s).insert f ∨ p = (e.classifier s).update f) :
    memberLine p <:+: t := by
  obtain ⟨o, node, ho, hwithin, rfl⟩ := exists_blockOf h hs
  have hclassifier : e.classifierOf o = e.classifier s := by
    rw [classifierOf, classifier, (Schema.outline_eq_ok ho).1]
  have hcolumn : f ∈ u.columns := List.mem_filter.mpr ⟨hf, by rw [hrelation]; rfl⟩
  obtain ⟨v, hv, hvo⟩ := Outcome.exists_mem_of_mapM (Schema.outline_eq_ok ho).2.2.1
    ((Order.sorted_perm _ _).mem_iff.mpr hu)
  rw [← hclassifier] at hp
  have hmem := (Table.columns_outline hvo).mem_iff.mpr hcolumn
  exact (within_memberLine hv hmem hp).isInfix.trans hwithin.isInfix

end

/-- **When the type of a column leads to the entry of its type.** A column of an enum with variants or of a composite
type with members has the members in the three records of its table that it should have, and the entry of its type is
in the output.  Its type is the path to that entry, and the keys on the way name what the path does, exactly if the
names of the schema and of the type have no quotes, backslashes and ends of lines in them. -/
theorem isPath_typeOf_iff {schemas : List Schema} {t : Text} (h : e.text schemas = .ok t) {s : Schema}
    (hs : s ∈ schemas) (hescaped : s.Escaped) {u : Table} (hu : u ∈ s.tables) {f : Field} (hf : f ∈ u.fields)
    {part name key : Text} (hreferent : s.Referent f.shape part name key) :
    HasEntry s.key part key t
    ∧ memberLine ((e.classifier s).row f) <:+: t ∧ memberLine ((e.classifier s).insert f) <:+: t
    ∧ memberLine ((e.classifier s).update f) <:+: t
    ∧ Aligned (e.classifier s) f ((e.classifier s).row f) ((e.classifier s).insert f) ((e.classifier s).update f)
    ∧ (IsPath ((e.classifier s).typeOf f) s.name part name ∧ Key.Names s.key s.name ∧ Key.Names key name
      ↔ s.name.all (Quoted.isPlain '\'') = true ∧ name.all (Quoted.isPlain '\'') = true) := by
  have hline {p : Projection} := isInfix_memberLine h hs hu hf hreferent.isRelation_eq (p := p)
  have hpath : IsPath ((e.classifier s).typeOf f) s.name part name
      ↔ s.name.all (Quoted.isPlain '\'') = true ∧ name.all (Quoted.isPlain '\'') = true := by
    rw [hreferent.typeOf_eq]
    exact (isPath_reference_iff (e.classifier s) part name).trans
      (and_congr_right fun _ => and_iff_right hreferent.isPlain_part)
  have hnames (hplain : s.name.all (Quoted.isPlain '\'') = true ∧ name.all (Quoted.isPlain '\'') = true) :
      Key.Names s.key s.name ∧ Key.Names key name := by
    rw [hescaped.key, hreferent.key_eq hescaped]
    exact ⟨Key.names_of_isPlain hplain.1, Key.names_of_isPlain hplain.2⟩
  exact ⟨hasEntry_of_referent h hs hreferent, hline (.inl rfl), hline (.inr (.inl rfl)),
    hline (.inr (.inr rfl)), Classifier.aligned _ f, ⟨fun hall => hpath.mp hall.1,
      fun hplain => ⟨hpath.mpr hplain, hnames hplain⟩⟩⟩

end Emission

/-- a schema with a column of an enum -/
def Schema.single (name type : Text) : Schema where
  name := name
  key := Key.ofName name
  tables := [{ name := "t", key := "t", fields := [{ name := "c", isRequired := false, shape := .enum type }] }]
  enums := [{ name := type, key := Key.ofName type, variants := [{ name := "v" }] }]

theorem Schema.escaped_single (name type : Text) : (Schema.single name type).Escaped := by
  refine ⟨rfl, fun x hx => ?_, fun x hx => absurd hx List.not_mem_nil⟩
  rw [List.mem_singleton.mp hx]

theorem Schema.referent_single (name type : Text) :
    (Schema.single name type).Referent (.enum type) "Enums" type (Key.ofName type) :=
  .enum (x := { name := type, key := Key.ofName type, variants := [{ name := "v" }] }) List.mem_cons_self
    (List.cons_ne_nil _ _)

theorem Emission.isPath_typeOf_iff_spaced : ∃ t u f, ({} : Emission).text [.single "my schema" "a-b"] = .ok t
    ∧ (Schema.single "my schema" "a-b").Escaped ∧ u ∈ (Schema.single "my schema" "a-b").tables ∧ f ∈ u.fields
    ∧ (Schema.single "my schema" "a-b").Referent f.shape "Enums" "a-b" (Key.ofName "a-b")
    ∧ HasEntry (Key.ofName "my schema") "Enums" (Key.ofName "a-b") t
    ∧ memberLine (Classifier.row { schemaName := "my schema" } f) <:+: t
    ∧ IsPath (Classifier.typeOf { schemaName := "my schema" } f) "my schema" "Enums" "a-b"
    ∧ Key.Names (Key.ofName "my schema") "my schema" ∧ Key.Names (Key.ofName "a-b") "a-b" := by
  obtain ⟨t, ht⟩ : ∃ t, ({} : Emission).text [.single "my schema" "a-b"] = .ok t := ⟨_, rfl⟩
  have hescaped := Schema.escaped_single "my schema" "a-b"
  have hreferent := Schema.referent_single "my schema" "a-b"
  obtain ⟨hentry, hline, _, _, _, hpath⟩ := Emission.isPath_typeOf_iff ht List.mem_cons_self hescaped
    List.mem_cons_self (f := { name := "c", isRequired := false, shape := .enum "a-b" }) List.mem_cons_self hreferent
  obtain ⟨htype, hschema, hname⟩ := hpath.mpr ⟨by decide, by decide⟩
  exact ⟨t, _, _, ht, hescaped, List.mem_cons_self, List.mem_cons_self, hreferent, hentry, hline, htype, hschema,
    hname⟩

/-- a model with a column of an enum whose name has a quote in it -/
def Json.apostrophe : Json :=
  .object
    [("models", .list [.object [("name", "t"), ("fields", .list [.object [("name", "c"), ("kind", "enum"),
       ("type", "it's"), ("isRequired", .bool false)]])]]),
     ("enums", .list [.object [("name", "it's"), ("values", .list [.object [("name", "v")]])]])]

/-- the enum has an entry under a key that names it, but the type of the column is no path to that -/
theorem apostrophe_without_path : ∃ t u f, generateTypes .apostrophe true = .ok t
    ∧ Schema.ofJson .apostrophe = .ok (.single "public" "it's")
    ∧ u ∈ (Schema.single "public" "it's").tables ∧ f ∈ u.fields
    ∧ (Schema.single "public" "it's").Referent f.shape "Enums" "it's" (Key.ofName "it's")
    ∧ Emission.HasEntry (Key.ofName "public") "Enums" (Key.ofName "it's") t
    ∧ Key.Names (Key.ofName "public") "public" ∧ Key.Names (Key.ofName "it's") "it's"
    ∧ Emission.memberLine (Classifier.row {} f) <:+: t
    ∧ (Classifier.row {} f).type = "Database['public']['Enums']['it's'] | null".toList
    ∧ ¬ IsPath (Classifier.typeOf {} f) "public" "Enums" "it's" := by
  have hs : Schema.ofJson .apostrophe = .ok (.single "public" "it's") := rfl
  obtain ⟨t, ht⟩ : ∃ t, ({} : Emission).text [.single "public" "it's"] = .ok t := ⟨_, rfl⟩
  have hgenerate : generateTypes .apostrophe true = .ok t := Outcome.bind_eq_ok_iff.mpr ⟨_, hs, ht⟩
  have hreferent := Schema.referent_single "public" "it's"
  have hentry := Emission.hasEntry_of_referent ht List.mem_cons_self hreferent
  refine ⟨t, _, { name := "c", isRequired := false, shape := .enum "it's" }, hgenerate, hs, List.mem_cons_self,
    List.mem_cons_self, hreferent, hentry, by decide, by decide, ?_, by decide, ?_⟩
  · exact Emission.isInfix_memberLine ht List.mem_cons_self List.mem_cons_self List.mem_cons_self rfl (.inl rfl)
  · exact fun hpath => absurd ((isPath_reference_iff {} _ _).mp hpath).2.2 (by decide)

end DatabaseTypes
