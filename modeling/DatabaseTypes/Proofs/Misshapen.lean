import DatabaseTypes.Proofs.Outline

/-!
# Models of another shape

A model that is not shaped like one fails because of a member that is missing, or a value of another sort than the
one that is needed.  Reading a schema and writing it down have no other faults.

* `Fault.IsMisshapen`       the faults of models that are not shaped like one
* `Schema.fails_ofJson`     reading a schema
* `fails_generateTypes`     the whole output
-/

namespace DatabaseTypes

open Outcome

/-- the faults of models that are not shaped like one -/
def Fault.IsMisshapen : Fault → Prop
  | .missing _ | .noMembers _ | .notIterable _ | .lacks _ _ | .notText _ => True
  | _ => False

/-- a step that fails only with these -/
abbrev Misshapes {α : Type} (x : Except Fault α) : Prop := Fails Fault.IsMisshapen x

/-! ## members -/

namespace Json

theorem fails_elements (v : Json) : Misshapes v.elements := by
  unfold elements
  split
  · exact .ok _
  · exact .ok _
  · exact .ok _
  · exact .error trivial

theorem fails_lookup (key : Text) (v : Json) : Misshapes (v.lookup key) := by
  unfold lookup
  split
  · exact .ok _
  · exact .error trivial

theorem fails_demand (key : Text) (v : Json) : Misshapes (v.demand key) := by
  unfold demand
  split
  · split
    · exact .ok _
    · exact .error trivial
  · exact .error trivial

theorem fails_elementsAt (key : Text) (v : Json) : Misshapes (v.elementsAt key) := by
  refine (fails_lookup key v).bind fun w => ?_
  split
  · exact .ok _
  · exact fails_elements _

theorem fails_flagAt (key : Text) (absent : Bool) (v : Json) : Misshapes (v.flagAt key absent) :=
  (fails_lookup key v).bind fun _ => .ok _

theorem fails_asName (v : Json) : Misshapes v.asName := by
  unfold asName
  split
  · exact .ok _
  · exact .error trivial

theorem fails_sortKey (v : Json) : Misshapes v.sortKey := by
  unfold sortKey
  split
  · exact .ok _
  · exact .error trivial

end Json

theorem Documentation.fails_ofJson (v : Option Json) : Misshapes (Documentation.ofJson v) := by
  unfold Documentation.ofJson
  split
  · exact .ok _
  · exact .ok _
  · exact .ok _
  · exact (Json.fails_elements _).map _

/-! ## reading a schema -/

theorem Shape.fails_ofJson (raw kind : Json) (typeName : Text) (relation : Option Json) :
    Misshapes (Shape.ofJson raw kind typeName relation) := by
  unfold Shape.ofJson
  split
  · split
    · exact .ok _
    · split
      · exact .ok _
      · split
        · split
          · exact .ok _
          · exact (Json.fails_elementsAt _ raw).bind fun _ => (Json.fails_elementsAt _ raw).bind fun _ => .ok _
        · exact .ok _
  · exact .ok _

theorem Field.fails_ofJson (raw : Json) : Misshapes (Field.ofJson raw) := by
  have hlookup (key : Text) := Json.fails_lookup key raw
  have hflag (key : Text) (absent : Bool) := Json.fails_flagAt key absent raw
  refine (hlookup _).bind fun _ => (hlookup _).bind fun _ => (hlookup _).bind fun _ => ?_
  refine (hlookup _).bind fun _ => (hlookup _).bind fun _ => (Json.fails_demand _ raw).bind fun _ => ?_
  refine (hflag _ _).bind fun _ => (hflag _ _).bind fun _ => (hflag _ _).bind fun _ => ?_
  refine (hlookup _).bind fun _ => (Documentation.fails_ofJson _).bind fun _ => ?_
  exact (Shape.fails_ofJson _ _ _ _).bind fun _ => .ok _

theorem Table.fails_ofJson (raw : Json) : Misshapes (Table.ofJson raw) := by
  refine (Json.fails_demand _ raw).bind fun v => (Json.fails_asName v).bind fun _ => ?_
  refine (Json.fails_elementsAt _ raw).bind fun _ => (Fails.mapM Field.fails_ofJson _).bind fun _ => ?_
  exact (Json.fails_lookup _ raw).bind fun _ => (Documentation.fails_ofJson _).bind fun _ => .ok _

theorem Variant.fails_ofJson (raw : Json) : Misshapes (Variant.ofJson raw) :=
  (Json.fails_demand _ raw).bind fun _ => (Json.fails_lookup _ raw).bind fun _ =>
    (Documentation.fails_ofJson _).bind fun _ => .ok _

theorem Enum.fails_ofJson (raw : Json) : Misshapes (Enum.ofJson raw) := by
  refine (Json.fails_elementsAt _ raw).bind fun _ => (Fails.mapM Variant.fails_ofJson _).bind fun _ => ?_
  refine (Json.fails_demand _ raw).bind fun v => (Json.fails_asName v).bind fun _ => ?_
  exact (Json.fails_lookup _ raw).bind fun _ => (Documentation.fails_ofJson _).bind fun _ => .ok _

theorem Member.fails_ofJson (raw : Json) : Misshapes (Member.ofJson raw) := by
  have hrest (type : Option Field) : Misshapes (do
      let name ← raw.demand "name"
      let documentation ← Documentation.ofJson (← raw.lookup "documentation")
      pure { name, type, documentation } : Except Fault Member) :=
    (Json.fails_demand _ raw).bind fun _ => (Json.fails_lookup _ raw).bind fun _ =>
      (Documentation.fails_ofJson _).bind fun _ => .ok _
  refine (Json.fails_lookup _ raw).bind fun type => ?_
  dsimp only
  split
  · exact ((Field.fails_ofJson raw).map some).bind hrest
  · exact (Fails.ok none).bind hrest

theorem Composite.fails_ofJson (raw : Json) : Misshapes (Composite.ofJson raw) :=
  (Json.fails_elementsAt _ raw).bind fun _ => (Fails.mapM Member.fails_ofJson _).bind fun _ =>
    (Json.fails_demand _ raw).bind fun v => (Json.fails_asName v).bind fun _ => .ok _

theorem Schema.fails_ofJson (datamodel : Json) : Misshapes (Schema.ofJson datamodel) := by
  have hat (key : Text) := Json.fails_elementsAt key datamodel
  refine (hat _).bind fun _ => (Fails.mapM Table.fails_ofJson _).bind fun _ => ?_
  refine (hat _).bind fun _ => (Fails.mapM Enum.fails_ofJson _).bind fun _ => ?_
  exact (hat _).bind fun _ => (Fails.mapM Composite.fails_ofJson _).bind fun _ => .ok _

/-! ## writing it down -/

theorem Order.fails_byName {α : Type} (name : α → Json) (items : List α) :
    Misshapes (Order.byName name items) :=
  (Fails.mapM (fun x => (Json.fails_sortKey (name x)).bind fun _ => .ok _) items).bind fun _ => .ok _

theorem Table.fails_relationships (t : Table) : Misshapes t.relationships := by
  have hkey (k : ForeignKey) : Misshapes k.sortKey :=
    (Json.fails_sortKey _).bind fun _ => (Json.fails_sortKey _).bind fun _ => .ok _
  refine Fails.map ?_ _
  exact (Fails.mapM (fun k => (hkey k).bind fun _ => .ok _) _).bind fun _ => .ok _

theorem Schema.fails_outline (s : Schema) : Misshapes s.outline := by
  refine (Fails.mapM (fun t => ?_) _).bind fun _ => .ok _
  exact (t.fails_relationships).bind fun _ => (Order.fails_byName _ _).bind fun _ => .ok _

/-- writing a schema down fails only if its names are no texts -/
theorem Emission.fails_text (e : Emission) (s : Schema) : Misshapes (e.text [s]) := by
  rw [Emission.text_singleton]
  exact s.fails_outline.map _

/-- **A model without an output lacks a member, or has a value of another sort than the one that is needed.** -/
theorem fails_generateTypes (datamodel : Json) (documentation : Bool) :
    Misshapes (generateTypes datamodel documentation) :=
  (Schema.fails_ofJson datamodel).bind fun s => Emission.fails_text _ s

end DatabaseTypes
