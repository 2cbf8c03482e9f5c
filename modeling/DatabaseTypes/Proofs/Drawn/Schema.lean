import DatabaseTypes.Proofs.Commented.Page
import DatabaseTypes.Proofs.Drawn
import DatabaseTypes.Proofs.Json.Place

/-!
# The characters of a schema

Every text of a schema has the characters of the model that it is read from, and ASCII ones.

* `Field.Drawn`, `Table.Drawn`, `Enum.Drawn`, `Composite.Drawn`   the parts of a schema
* `Schema.drawn_ofJson`   the schema of a model
* `Schema.Drawn.outline`  the outline of a schema
-/

namespace DatabaseTypes

open Outcome (Gives)

variable {P : Char → Prop}

/-! ## documentation -/

namespace Documentation

theorem drawn_ofLines {ls : List Text} (h : ∀ l ∈ ls, Drawn P l) : ∀ l ∈ ofLines ls, Drawn P l := by
  intro l hl
  have hl := List.mem_reverse.mp ((List.dropWhile_subset _) hl)
  obtain ⟨l', hl', rfl⟩ := List.mem_map.mp (List.mem_reverse.mp ((List.dropWhile_subset _) hl))
  exact (h l' hl').subset (Text.prefix_trimEnd l').subset

theorem drawn_ofText {t : Text} (h : Drawn P t) : ∀ l ∈ ofText t, Drawn P l := by
  refine drawn_ofLines fun l hl c hc => ?_
  rcases Text.mem_of_mem_linesFrom l hl hc with hc | hc
  · cases hc
  · exact h c hc

end Documentation

/-! ## members -/

namespace Json

theorem drawn_elements {v : Json} (h : Drawn P v.chars) :
    Gives v.elements fun xs => ∀ x ∈ xs, Drawn P x.chars := by
  cases v with
  | list items => exact .ok (drawn_itemChars_iff.mp h)
  | text t =>
    refine .ok fun x hx => ?_
    obtain ⟨c, hc, rfl⟩ := List.mem_map.mp hx
    exact List.forall_mem_singleton.mpr (h c hc)
  | object members =>
    refine .ok fun x hx => ?_
    obtain ⟨m, hm, rfl⟩ := List.mem_map.mp hx
    exact (drawn_memberChars h m hm).1
  | null | bool | int | float => exact .error

theorem drawn_lookup {v : Json} (h : Drawn P v.chars) (key : Text) :
    Gives (v.lookup key) fun w => ∀ x ∈ w, Drawn P x.chars := by
  cases v with
  | object members =>
    exact .ok fun x hx => (drawn_memberChars h _ (Members.mem_of_lookup hx)).2
  | null | bool | int | float | text | list => exact .error

theorem drawn_demand {v : Json} (h : Drawn P v.chars) (key : Text) :
    Gives (v.demand key) fun w => Drawn P w.chars := by
  cases v with
  | object members =>
    unfold demand
    dsimp only
    split
    · exact .ok (drawn_memberChars h _ (Members.mem_of_lookup ‹_›)).2
    · exact .error
  | null | bool | int | float | text | list => exact .error

theorem drawn_truthy? {w : Option Json} (h : ∀ x ∈ w, Drawn P x.chars) :
    ∀ x ∈ w.bind truthy?, Drawn P x.chars := by
  intro x hx
  obtain ⟨v, hv, hx⟩ := Option.bind_eq_some_iff.mp hx
  unfold truthy? at hx
  split at hx
  · cases hx
    exact h _ hv
  · cases hx

theorem drawn_elementsAt {v : Json} (h : Drawn P v.chars) (key : Text) :
    Gives (v.elementsAt key) fun xs => ∀ x ∈ xs, Drawn P x.chars := by
  refine (drawn_lookup h key).bind fun w hw => ?_
  have ht := drawn_truthy? hw
  cases e : w.bind truthy? with
  | none => exact .ok fun x hx => absurd hx List.not_mem_nil
  | some x => exact drawn_elements (ht x e)

theorem drawn_asName {v : Json} (h : Drawn P v.chars) : Gives v.asName (Drawn P) := by
  cases v with
  | text t => exact .ok h
  | null | bool | int | float | list | object => exact .error

end Json

theorem Documentation.drawn_ofJson {w : Option Json} (h : ∀ x ∈ w, Drawn P x.chars) :
    Gives (Documentation.ofJson w) fun ls => ∀ l ∈ ls, Drawn P l := by
  have hitems : ∀ v, Drawn P (Json.chars v) →
      Gives (v.elements.map fun items => ofLines (items.map Json.display)) fun ls =>
        ∀ l ∈ ls, Drawn P l := by
    refine fun v hv => (Json.drawn_elements hv).map fun xs hxs => drawn_ofLines fun l hl => ?_
    obtain ⟨x, hx, rfl⟩ := List.mem_map.mp hl
    exact Json.drawn_display (hxs x hx)
  cases w with
  | none => exact .ok fun l hl => absurd hl List.not_mem_nil
  | some v =>
    have hv := h v rfl
    cases v with
    | null => exact .ok fun l hl => absurd hl List.not_mem_nil
    | text t => exact .ok (drawn_ofText hv)
    | bool | int | float | list | object => exact hitems _ hv

/-! ## the parts of a schema -/

/-- the names in a shape; a kind that is not known shows in no text -/
def Shape.Drawn (P : Char → Prop) : Shape → Prop
  | .enum name | .composite name => DatabaseTypes.Drawn P name
  | .relation r => DatabaseTypes.Drawn P r.name.chars ∧ DatabaseTypes.Drawn P r.target
    ∧ DatabaseTypes.Drawn P (Json.itemChars r.columns)
    ∧ DatabaseTypes.Drawn P (Json.itemChars r.referenced)
  | .scalar _ | .unsupported _ => True

structure Field.Drawn (P : Char → Prop) (f : Field) : Prop where
  name : DatabaseTypes.Drawn P f.name.chars
  documentation : ∀ l ∈ f.documentation, DatabaseTypes.Drawn P l
  shape : f.shape.Drawn P

structure Table.Drawn (P : Char → Prop) (t : Table) : Prop where
  key : DatabaseTypes.Drawn P t.key
  documentation : ∀ l ∈ t.documentation, DatabaseTypes.Drawn P l
  fields : ∀ f ∈ t.fields, f.Drawn P

structure Variant.Drawn (P : Char → Prop) (v : Variant) : Prop where
  name : DatabaseTypes.Drawn P v.name.chars
  documentation : ∀ l ∈ v.documentation, DatabaseTypes.Drawn P l

structure Enum.Drawn (P : Char → Prop) (x : Enum) : Prop where
  key : DatabaseTypes.Drawn P x.key
  documentation : ∀ l ∈ x.documentation, DatabaseTypes.Drawn P l
  variants : ∀ v ∈ x.variants, v.Drawn P

structure Member.Drawn (P : Char → Prop) (m : Member) : Prop where
  name : DatabaseTypes.Drawn P m.name.chars
  documentation : ∀ l ∈ m.documentation, DatabaseTypes.Drawn P l
  type : ∀ f ∈ m.type, f.Drawn P

structure Composite.Drawn (P : Char → Prop) (x : Composite) : Prop where
  key : DatabaseTypes.Drawn P x.key
  members : ∀ m ∈ x.members, m.Drawn P

theorem Shape.drawn_ofJson {raw : Json} (h : DatabaseTypes.Drawn P raw.chars) (kind : Json)
    {typeName : Text} (ht : DatabaseTypes.Drawn P typeName) {relation : Option Json}
    (hr : ∀ x ∈ relation, DatabaseTypes.Drawn P x.chars) :
    Gives (Shape.ofJson raw kind typeName relation) (Shape.Drawn P) := by
  unfold Shape.ofJson
  split
  · split_ifs
    · exact .ok trivial
    · exact .ok ht
    · cases relation with
      | none => exact .ok ht
      | some name =>
        refine (Json.drawn_elementsAt h "relationFromFields").bind fun columns hc => ?_
        refine (Json.drawn_elementsAt h "relationToFields").bind fun referenced hf => ?_
        exact .ok ⟨hr name rfl, ht, Json.drawn_itemChars_iff.mpr hc, Json.drawn_itemChars_iff.mpr hf⟩
    · exact .ok trivial
  · exact .ok trivial

theorem Field.drawn_ofJson {raw : Json} (h : DatabaseTypes.Drawn P raw.chars) :
    Gives (Field.ofJson raw) (Field.Drawn P) := by
  refine (Gives.trivial _).bind fun kind _ => (Json.drawn_lookup h "type").bind fun type htype => ?_
  refine (Json.drawn_lookup h "relationName").bind fun relation hrelation => ?_
  refine (Gives.trivial _).bind fun flag _ => (Gives.trivial _).bind fun default _ => ?_
  refine (Json.drawn_demand h "name").bind fun name hname => ?_
  refine (Gives.trivial _).bind fun isRequired _ => (Gives.trivial _).bind fun isGenerated _ => ?_
  refine (Gives.trivial _).bind fun isList _ => ?_
  refine (Json.drawn_lookup h "documentation").bind fun lines hlines => ?_
  refine (Documentation.drawn_ofJson hlines).bind fun documentation hdocumentation => ?_
  have htypeName : DatabaseTypes.Drawn P (((type.bind Json.truthy?).map Json.display).getD []) := by
    cases e : type.bind Json.truthy? with
    | none => exact drawn_nil
    | some v => exact Json.drawn_display (Json.drawn_truthy? htype v e)
  refine (Shape.drawn_ofJson h _ htypeName (Json.drawn_truthy? hrelation)).bind fun shape hshape => ?_
  exact .ok ⟨hname, hdocumentation, hshape⟩

theorem Table.drawn_ofJson {raw : Json} (h : DatabaseTypes.Drawn P raw.chars) :
    Gives (Table.ofJson raw) (Table.Drawn P) := by
  refine (Json.drawn_demand h "name").bind fun raw' hraw => ?_
  refine (Json.drawn_asName hraw).bind fun name hname => ?_
  refine (Json.drawn_elementsAt h "fields").bind fun xs hxs => ?_
  refine (Gives.mapM fun x hx => Field.drawn_ofJson (hxs x hx)).bind fun fields hfields => ?_
  refine (Json.drawn_lookup h "documentation").bind fun lines hlines => ?_
  refine (Documentation.drawn_ofJson hlines).bind fun documentation hdocumentation => ?_
  exact .ok ⟨Key.drawn_ofName hname, hdocumentation, hfields⟩

theorem Variant.drawn_ofJson {raw : Json} (h : DatabaseTypes.Drawn P raw.chars) :
    Gives (Variant.ofJson raw) (Variant.Drawn P) := by
  refine (Json.drawn_demand h "name").bind fun name hname => ?_
  refine (Json.drawn_lookup h "documentation").bind fun lines hlines => ?_
  refine (Documentation.drawn_ofJson hlines).bind fun documentation hdocumentation => ?_
  exact .ok ⟨hname, hdocumentation⟩

theorem Enum.drawn_ofJson {raw : Json} (h : DatabaseTypes.Drawn P raw.chars) :
    Gives (Enum.ofJson raw) (Enum.Drawn P) := by
  refine (Json.drawn_elementsAt h "values").bind fun xs hxs => ?_
  refine (Gives.mapM fun x hx => Variant.drawn_ofJson (hxs x hx)).bind fun variants hvariants => ?_
  refine (Json.drawn_demand h "name").bind fun raw' hraw => ?_
  refine (Json.drawn_asName hraw).bind fun name hname => ?_
  refine (Json.drawn_lookup h "documentation").bind fun lines hlines => ?_
  refine (Documentation.drawn_ofJson hlines).bind fun documentation hdocumentation => ?_
  exact .ok ⟨Key.drawn_ofName hname, hdocumentation, hvariants⟩

theorem Member.drawn_ofJson {raw : Json} (h : DatabaseTypes.Drawn P raw.chars) :
    Gives (Member.ofJson raw) (Member.Drawn P) := by
  have hrest : ∀ type : Option Field, (∀ f ∈ type, f.Drawn P) → Gives
      (do let name ← raw.demand "name"
          let documentation ← Documentation.ofJson (← raw.lookup "documentation")
          pure ({ name, type, documentation } : Member)) (Member.Drawn P) := by
    intro type htype
    refine (Json.drawn_demand h "name").bind fun name hname => ?_
    refine (Json.drawn_lookup h "documentation").bind fun lines hlines => ?_
    refine (Documentation.drawn_ofJson hlines).bind fun documentation hdocumentation => ?_
    exact .ok ⟨hname, hdocumentation, htype⟩
  have hfield : Gives ((Field.ofJson raw).map some) fun w => ∀ f ∈ w, f.Drawn P := by
    refine (Field.drawn_ofJson h).map fun f hf g hg => ?_
    cases hg
    exact hf
  unfold Member.ofJson
  refine (Gives.trivial _).bind fun type _ => ?_
  dsimp only
  split
  · exact hfield.bind hrest
  · exact hrest none fun f hf => by cases hf

theorem Composite.drawn_ofJson {raw : Json} (h : DatabaseTypes.Drawn P raw.chars) :
    Gives (Composite.ofJson raw) (Composite.Drawn P) := by
  refine (Json.drawn_elementsAt h "fields").bind fun xs hxs => ?_
  refine (Gives.mapM fun x hx => Member.drawn_ofJson (hxs x hx)).bind fun members hmembers => ?_
  refine (Json.drawn_demand h "name").bind fun raw' hraw => ?_
  refine (Json.drawn_asName hraw).bind fun name hname => ?_
  exact .ok ⟨Key.drawn_ofName hname, hmembers⟩

/-! ## schemas and outlines -/

structure Schema.Drawn (P : Char → Prop) (s : Schema) : Prop where
  name : DatabaseTypes.Drawn P s.name
  key : DatabaseTypes.Drawn P s.key
  tables : ∀ t ∈ s.tables, t.Drawn P
  enums : ∀ x ∈ s.enums, x.Drawn P
  composites : ∀ x ∈ s.composites, x.Drawn P

theorem Schema.drawn_ofJson {datamodel : Json} (h : DatabaseTypes.Drawn P datamodel.chars) :
    Gives (Schema.ofJson datamodel) (Schema.Drawn P) := by
  refine (Json.drawn_elementsAt h "models").bind fun models hmodels => ?_
  refine (Gives.mapM fun x hx => Table.drawn_ofJson (hmodels x hx)).bind fun tables htables => ?_
  refine (Json.drawn_elementsAt h "enums").bind fun xs hxs => ?_
  refine (Gives.mapM fun x hx => Enum.drawn_ofJson (hxs x hx)).bind fun enums henums => ?_
  refine (Json.drawn_elementsAt h "types").bind fun types htypes => ?_
  refine (Gives.mapM fun x hx => Composite.drawn_ofJson (htypes x hx)).bind fun cs hcs => ?_
  have hname : DatabaseTypes.Drawn P Schema.defaultName := drawn_constant rfl
  exact .ok ⟨hname, Key.drawn_ofName hname, htables, henums, hcs⟩

/-- what is in an outline of a table -/
structure Outline.Table.Drawn (P : Char → Prop) (t : Outline.Table) : Prop where
  key : DatabaseTypes.Drawn P t.key
  documentation : ∀ l ∈ t.documentation, DatabaseTypes.Drawn P l
  columns : ∀ f ∈ t.columns, f.Drawn P
  relationships : ∀ r ∈ t.relationships, DatabaseTypes.Drawn P r.name.chars
    ∧ DatabaseTypes.Drawn P r.target ∧ DatabaseTypes.Drawn P (Json.itemChars r.columns)
    ∧ DatabaseTypes.Drawn P (Json.itemChars r.referenced)

structure Outline.Drawn (P : Char → Prop) (o : Outline) : Prop where
  name : DatabaseTypes.Drawn P o.name
  key : DatabaseTypes.Drawn P o.key
  tables : ∀ t ∈ o.tables, t.Drawn P
  enums : ∀ x ∈ o.enums, x.Drawn P
  composites : ∀ x ∈ o.composites, x.Drawn P

theorem Table.Drawn.outline {t : Table} {o : Outline.Table} (ht : t.Drawn P)
    (h : t.outline = .ok o) : o.Drawn P := by
  obtain ⟨_, hk, hd, _, _⟩ := Table.outline_eq_ok h
  refine ⟨hk ▸ ht.key, hd ▸ ht.documentation, fun f hf => ?_, fun r hr => ?_⟩
  · exact ht.fields f (List.mem_filter.mp ((Table.columns_outline h).mem_iff.mp hf)).1
  · obtain ⟨f, hf, l, hl, rfl⟩ := Table.exists_relation h hr
    have hshape := (ht.fields f hf).shape
    rw [hl] at hshape
    exact hshape

theorem Schema.Drawn.outline {s : Schema} {o : Outline} (hs : s.Drawn P) (h : s.outline = .ok o) :
    o.Drawn P := by
  obtain ⟨hn, hk, _, _, _⟩ := Schema.outline_eq_ok h
  refine ⟨hn ▸ hs.name, hk ▸ hs.key, fun t ht => ?_, fun x hx => ?_, fun x hx => ?_⟩
  · obtain ⟨u, hu, e⟩ := Schema.exists_table h ht
    exact (hs.tables u hu).outline e
  · exact hs.enums x ((Schema.mem_enums h).mp hx).1
  · exact hs.composites x ((Schema.mem_composites h).mp hx).1

end DatabaseTypes
