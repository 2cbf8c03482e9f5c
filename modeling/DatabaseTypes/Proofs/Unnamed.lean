import DatabaseTypes.Proofs.Named

/-!
# Models without names

Of a model that has the right shape nothing but names can be missing: whatever its kinds, types, flags
and references say, it has an output as long as everything in it has a name.

* `Json.isModelShaped`   has a value the shape of a model, names aside?
* `Json.namesAll`        does everything in a model have a name?
* `Schema.Sortable`      whatever the schema is sorted by is a text
* `generateTypes_of_isModelShaped`   a model has an output if and only if everything has a name
-/

namespace DatabaseTypes

/-! ## shapes -/

namespace Json

def isListOf (test : Json → Bool) : Json → Bool
  | .list items => items.all test
  | _ => false

/-- is a member absent, null or something that `test` accepts? -/
def mayHave (key : Text) (test : Json → Bool) (v : Json) : Bool :=
  (v.get? key).all fun w => w.isNull || test w

/-- is a value an object whose name is a text, if it has one, and whose documentation is a text or a
list, if it has any? -/
def isPartShaped (v : Json) : Bool :=
  v.isObject && (v.get? "name").all isText
    && v.mayHave "documentation" fun w => w.isText || w.isListOf fun _ => true

/-- has a value the shape of a field or of a member? Its kind and its flags may be anything. -/
def isFieldShaped (v : Json) : Bool :=
  v.isPartShaped && v.mayHave "type" isText && v.mayHave "relationName" isText
    && v.mayHave "relationFromFields" (isListOf isText)
    && v.mayHave "relationToFields" (isListOf isText)

def isTableShaped (v : Json) : Bool := v.isPartShaped && v.mayHave "fields" (isListOf isFieldShaped)

def isEnumShaped (v : Json) : Bool := v.isPartShaped && v.mayHave "values" (isListOf isPartShaped)

def isModelShaped (v : Json) : Bool :=
  v.isObject && v.mayHave "models" (isListOf isTableShaped)
    && v.mayHave "enums" (isListOf isEnumShaped) && v.mayHave "types" (isListOf isTableShaped)

/-! ## names -/

def isNamed (v : Json) : Bool := (v.get? "name").isSome

/-- the items of the list under a key; none if there is no list -/
def itemsAt (key : Text) (v : Json) : List Json :=
  match v.get? key with
  | some (.list items) => items
  | _ => []

/-- have an object and the items of its list under a key names? -/
def namesItems (key : Text) (v : Json) : Bool := v.isNamed && (v.itemsAt key).all isNamed

/-- does everything in a model have a name: the tables and composite types with their fields, and the
enums with their variants? -/
def namesAll (v : Json) : Bool :=
  (v.itemsAt "models").all (namesItems "fields") && (v.itemsAt "enums").all (namesItems "values")
    && (v.itemsAt "types").all (namesItems "fields")

/-! ## members of objects -/

section
variable {v : Json} (h : v.isObject = true)
include h

theorem exists_of_isObject : ∃ members, v = .object members := by
  cases v with
  | object members => exact ⟨members, rfl⟩
  | null | bool | int | float | text | list => cases h

theorem lookup_of_isObject (key : Text) : v.lookup key = .ok (v.get? key) := by
  obtain ⟨members, rfl⟩ := exists_of_isObject h
  rfl

theorem flagAt_of_isObject (key : Text) (absent : Bool) :
    v.flagAt key absent = .ok (((v.get? key).map isTruthy).getD absent) := by
  rw [flagAt, lookup_of_isObject h]
  rfl

theorem hinges_demand (hn : (v.get? "name").all isText = true) :
    Outcome.Hinges (.missing "name") (fun w => w.isText = true) v.isNamed (v.demand "name") := by
  obtain ⟨members, rfl⟩ := exists_of_isObject h
  unfold demand isNamed
  dsimp only
  cases hg : members.lookup "name".toList with
  | none =>
    rw [show (object members).get? "name" = none from hg]
    exact .error
  | some w =>
    rw [show (object members).get? "name" = some w from hg] at hn ⊢
    exact .ok hn

theorem elementsAt_of_mayHave {key : Text} {test : Json → Bool}
    (hl : v.mayHave key (isListOf test) = true) :
    v.elementsAt key = .ok (v.itemsAt key) ∧ ∀ w ∈ v.itemsAt key, test w = true := by
  unfold elementsAt itemsAt
  rw [lookup_of_isObject h]
  unfold mayHave at hl
  cases hg : v.get? key with
  | none => exact ⟨rfl, fun w hw => absurd hw List.not_mem_nil⟩
  | some w =>
    rw [hg] at hl
    cases w with
    | null => exact ⟨rfl, fun w hw => absurd hw List.not_mem_nil⟩
    | list items =>
      refine ⟨?_, List.all_eq_true.mp hl⟩
      cases items <;> rfl
    | bool => cases hl
    | int => cases hl
    | float => cases hl
    | text => cases hl
    | object => cases hl

end

theorem asName_of_isText {v : Json} (h : v.isText = true) : ∃ t, v.asName = .ok t := by
  obtain ⟨t, rfl⟩ := exists_of_isText h
  exact ⟨t, rfl⟩

end Json

theorem Documentation.exists_ofJson {v : Json} (h : v.isPartShaped = true) :
    ∃ lines, Documentation.ofJson (v.get? "documentation") = .ok lines := by
  simp only [Json.isPartShaped, Bool.and_eq_true] at h
  have hd := h.2
  unfold Json.mayHave at hd
  cases hg : v.get? "documentation" with
  | none => exact ⟨_, rfl⟩
  | some w =>
    rw [hg] at hd
    cases w with
    | null => exact ⟨_, rfl⟩
    | text t => exact ⟨_, rfl⟩
    | list items => exact ⟨_, rfl⟩
    | bool => cases hd
    | int => cases hd
    | float => cases hd
    | object => cases hd

/-! ## reading -/

/-- the names by which a field may be sorted are texts -/
structure Field.Sortable (f : Field) : Prop where
  name : f.name.isText = true
  relation : ∀ r, f.shape = .relation r → r.name.isText = true

/-- the names by which a schema is sorted are texts -/
def Schema.Sortable (s : Schema) : Prop := ∀ t ∈ s.tables, ∀ f ∈ t.fields, f.Sortable

/-- what a field holds can always be read; a relation keeps the name that it is given -/
theorem Shape.exists_ofJson {raw : Json} (h : raw.isFieldShaped = true) (kind : Json)
    (typeName : Text) (relation : Option Json) :
    ∃ shape, Shape.ofJson raw kind typeName relation = .ok shape
      ∧ ∀ r, shape = .relation r → relation = some r.name := by
  simp only [Json.isFieldShaped, Json.isPartShaped, Bool.and_eq_true] at h
  obtain ⟨⟨⟨⟨⟨⟨hobj, _⟩, _⟩, _⟩, _⟩, hfrom⟩, hto⟩ := h
  unfold Shape.ofJson
  split
  · split
    · exact ⟨_, rfl, nofun⟩
    split
    · exact ⟨_, rfl, nofun⟩
    split
    · cases relation with
      | none => exact ⟨_, rfl, nofun⟩
      | some name =>
        have hf := (Json.elementsAt_of_mayHave hobj hfrom).1
        have ht := (Json.elementsAt_of_mayHave hobj hto).1
        refine ⟨_, Outcome.bind_eq_ok_iff.mpr ⟨_, hf, Outcome.bind_eq_ok_iff.mpr ⟨_, ht, rfl⟩⟩, ?_⟩
        rintro r hr
        cases hr
        rfl
    · exact ⟨_, rfl, nofun⟩
  · exact ⟨_, rfl, nofun⟩

theorem Field.hinges_ofJson {raw : Json} (h : raw.isFieldShaped = true) :
    Outcome.Hinges (.missing "name") Field.Sortable raw.isNamed (Field.ofJson raw) := by
  have hf := h
  simp only [Json.isFieldShaped, Bool.and_eq_true] at h
  obtain ⟨⟨⟨⟨hp, _⟩, hrelation⟩, _⟩, _⟩ := h
  obtain ⟨lines, hlines⟩ := Documentation.exists_ofJson hp
  simp only [Json.isPartShaped, Bool.and_eq_true] at hp
  obtain ⟨⟨hobj, hname⟩, _⟩ := hp
  have hl := Json.lookup_of_isObject hobj
  have hflag := Json.flagAt_of_isObject hobj
  unfold Field.ofJson
  refine .bind_ok (hl _) (.bind_ok (hl _) (.bind_ok (hl _) (.bind_ok (hl _) (.bind_ok (hl _) ?_))))
  rw [← Bool.and_true raw.isNamed]
  refine (Json.hinges_demand hobj hname).bind fun name hn => ?_
  refine .bind_ok (hflag _ _) (.bind_ok (hflag _ _) (.bind_ok (hflag _ _) ?_))
  refine .bind_ok (hl _) (.bind_ok hlines ?_)
  obtain ⟨shape, hshape, hr⟩ := Shape.exists_ofJson hf (((raw.get? "kind").getD .null))
    ((((raw.get? "type").bind Json.truthy?).map Json.display).getD [])
    ((raw.get? "relationName").bind Json.truthy?)
  refine .bind_ok hshape (.ok ⟨hn, fun r e => ?_⟩)
  -- the name of a relation is a member that counts as true, so it is not null
  obtain ⟨w, hw, ht⟩ := Option.bind_eq_some_iff.mp (hr r e)
  unfold Json.mayHave at hrelation
  rw [hw] at hrelation
  unfold Json.truthy? at ht
  split at ht
  · rename_i htrue
    cases ht
    rcases Bool.or_eq_true_iff.mp hrelation with hnull | htext
    · cases hrn : r.name with
      | null =>
        rw [hrn] at htrue
        cases htrue
      | bool | int | float | text | list | object =>
        rw [hrn] at hnull
        cases hnull
    · exact htext
  · cases ht

theorem Table.hinges_ofJson {raw : Json} (h : raw.isTableShaped = true) :
    Outcome.Hinges (.missing "name") (fun t => ∀ f ∈ t.fields, f.Sortable)
      (raw.namesItems "fields") (Table.ofJson raw) := by
  simp only [Json.isTableShaped, Bool.and_eq_true] at h
  obtain ⟨hp, hfields⟩ := h
  obtain ⟨lines, hlines⟩ := Documentation.exists_ofJson hp
  simp only [Json.isPartShaped, Bool.and_eq_true] at hp
  obtain ⟨⟨hobj, hname⟩, _⟩ := hp
  obtain ⟨helements, hshaped⟩ := Json.elementsAt_of_mayHave hobj hfields
  unfold Table.ofJson Json.namesItems
  refine (Json.hinges_demand hobj hname).bind fun v hv => ?_
  obtain ⟨name, hname⟩ := Json.asName_of_isText hv
  refine .bind_ok hname (.bind_ok helements ?_)
  rw [← Bool.and_true ((raw.itemsAt "fields").all Json.isNamed)]
  refine (Outcome.Hinges.mapM fun f hf => Field.hinges_ofJson (hshaped f hf)).bind fun fields hs => ?_
  exact .bind_ok (Json.lookup_of_isObject hobj _) (.bind_ok hlines (.ok hs))

theorem Variant.hinges_ofJson {raw : Json} (h : raw.isPartShaped = true) :
    Outcome.Hinges (.missing "name") (fun _ => True) raw.isNamed (Variant.ofJson raw) := by
  obtain ⟨lines, hlines⟩ := Documentation.exists_ofJson h
  simp only [Json.isPartShaped, Bool.and_eq_true] at h
  obtain ⟨⟨hobj, hname⟩, _⟩ := h
  unfold Variant.ofJson
  rw [← Bool.and_true raw.isNamed]
  refine (Json.hinges_demand hobj hname).bind fun v _ => ?_
  exact .bind_ok (Json.lookup_of_isObject hobj _) (.bind_ok hlines (.ok trivial))

theorem Enum.hinges_ofJson {raw : Json} (h : raw.isEnumShaped = true) :
    Outcome.Hinges (.missing "name") (fun _ => True) (raw.namesItems "values")
      (Enum.ofJson raw) := by
  simp only [Json.isEnumShaped, Bool.and_eq_true] at h
  obtain ⟨hp, hvalues⟩ := h
  obtain ⟨lines, hlines⟩ := Documentation.exists_ofJson hp
  simp only [Json.isPartShaped, Bool.and_eq_true] at hp
  obtain ⟨⟨hobj, hname⟩, _⟩ := hp
  obtain ⟨helements, hshaped⟩ := Json.elementsAt_of_mayHave hobj hvalues
  unfold Enum.ofJson Json.namesItems
  -- the variants are read before the name, but the fault is the same
  rw [Bool.and_comm, ← Bool.and_true raw.isNamed]
  refine .bind_ok helements ?_
  refine (Outcome.Hinges.mapM fun v hv => Variant.hinges_ofJson (hshaped v hv)).bind fun _ _ => ?_
  refine (Json.hinges_demand hobj hname).bind fun v hv => ?_
  obtain ⟨name, hname⟩ := Json.asName_of_isText hv
  exact .bind_ok hname (.bind_ok (Json.lookup_of_isObject hobj _) (.bind_ok hlines (.ok trivial)))

theorem Member.hinges_ofJson {raw : Json} (h : raw.isFieldShaped = true) :
    Outcome.Hinges (.missing "name") (fun _ => True) raw.isNamed (Member.ofJson raw) := by
  have hfield := Field.hinges_ofJson h
  simp only [Json.isFieldShaped, Bool.and_eq_true] at h
  obtain ⟨⟨⟨⟨hp, _⟩, _⟩, _⟩, _⟩ := h
  obtain ⟨lines, hlines⟩ := Documentation.exists_ofJson hp
  simp only [Json.isPartShaped, Bool.and_eq_true] at hp
  obtain ⟨⟨hobj, hname⟩, _⟩ := hp
  have hrest : ∀ type : Option Field, Outcome.Hinges (.missing "name") (fun _ => True) raw.isNamed
      (do let name ← raw.demand "name"
          let documentation ← Documentation.ofJson (← raw.lookup "documentation")
          pure ({ name, type, documentation } : Member)) := by
    intro type
    rw [← Bool.and_true raw.isNamed]
    refine (Json.hinges_demand hobj hname).bind fun v _ => ?_
    exact .bind_ok (Json.lookup_of_isObject hobj _) (.bind_ok hlines (.ok trivial))
  unfold Member.ofJson
  refine .bind_ok (Json.lookup_of_isObject hobj _) ?_
  dsimp only
  split
  · rw [← Bool.and_self raw.isNamed]
    exact (hfield.map (Q := fun _ => True) fun _ _ => trivial).bind fun type _ => hrest type
  · exact hrest none

theorem Composite.hinges_ofJson {raw : Json} (h : raw.isTableShaped = true) :
    Outcome.Hinges (.missing "name") (fun _ => True) (raw.namesItems "fields")
      (Composite.ofJson raw) := by
  simp only [Json.isTableShaped, Json.isPartShaped, Bool.and_eq_true] at h
  obtain ⟨⟨⟨hobj, hname⟩, _⟩, hfields⟩ := h
  obtain ⟨helements, hshaped⟩ := Json.elementsAt_of_mayHave hobj hfields
  unfold Composite.ofJson Json.namesItems
  rw [Bool.and_comm, ← Bool.and_true raw.isNamed]
  refine .bind_ok helements ?_
  refine (Outcome.Hinges.mapM fun m hm => Member.hinges_ofJson (hshaped m hm)).bind fun _ _ => ?_
  refine (Json.hinges_demand hobj hname).bind fun v hv => ?_
  obtain ⟨name, hname⟩ := Json.asName_of_isText hv
  exact .bind_ok hname (.ok trivial)

/-- **Reading a model hinges on its names.** -/
theorem Schema.hinges_ofJson {datamodel : Json} (h : datamodel.isModelShaped = true) :
    Outcome.Hinges (.missing "name") Schema.Sortable datamodel.namesAll
      (Schema.ofJson datamodel) := by
  simp only [Json.isModelShaped, Bool.and_eq_true] at h
  obtain ⟨⟨⟨hobj, hmodels⟩, henums⟩, htypes⟩ := h
  obtain ⟨hm, hms⟩ := Json.elementsAt_of_mayHave hobj hmodels
  obtain ⟨he, hes⟩ := Json.elementsAt_of_mayHave hobj henums
  obtain ⟨ht, hts⟩ := Json.elementsAt_of_mayHave hobj htypes
  unfold Schema.ofJson Json.namesAll
  rw [Bool.and_assoc, ← Bool.and_true ((datamodel.itemsAt "types").all _)]
  refine .bind_ok hm ?_
  refine (Outcome.Hinges.mapM fun t ht => Table.hinges_ofJson (hms t ht)).bind fun tables hs => ?_
  refine .bind_ok he ?_
  refine (Outcome.Hinges.mapM fun x hx => Enum.hinges_ofJson (hes x hx)).bind fun _ _ => ?_
  refine .bind_ok ht ?_
  exact (Outcome.Hinges.mapM fun x hx => Composite.hinges_ofJson (hts x hx)).bind fun _ _ => .ok hs

/-! ## sorting and writing -/

theorem Json.exists_sortKey {v : Json} (h : v.isText = true) : ∃ k, v.sortKey = .ok k := by
  obtain ⟨t, rfl⟩ := Json.exists_of_isText h
  exact ⟨_, rfl⟩

theorem Field.eq_of_foreignKey {f : Field} {k : ForeignKey} (h : f.foreignKey? = some k) :
    k.field = f ∧ f.shape = .relation k.relation := by
  unfold Field.foreignKey? at h
  split at h
  · rename_i r hr
    split at h
    · cases h
      exact ⟨rfl, hr⟩
    · cases h
  · cases h

theorem Table.exists_relationships {t : Table} (h : ∀ f ∈ t.fields, f.Sortable) :
    ∃ rs, t.relationships = .ok rs := by
  have hpairs : ∃ pairs, (t.fields.filterMap Field.foreignKey?).mapM
      (fun k => do pure (← k.sortKey, k)) = .ok pairs := by
    refine Outcome.exists_mapM_ok fun k hk => ?_
    obtain ⟨f, hf, e⟩ := List.mem_filterMap.mp hk
    obtain ⟨rfl, hr⟩ := Field.eq_of_foreignKey e
    obtain ⟨a, ha⟩ := Json.exists_sortKey (h _ hf).name
    obtain ⟨b, hb⟩ := Json.exists_sortKey ((h _ hf).relation _ hr)
    refine ⟨(⟨a, b⟩, k), ?_⟩
    rw [ForeignKey.sortKey, ha, hb]
    rfl
  obtain ⟨pairs, hpairs⟩ := hpairs
  have hkeys : t.foreignKeys = .ok _ := Outcome.bind_eq_ok_iff.mpr ⟨pairs, hpairs, rfl⟩
  exact ⟨_, Outcome.map_eq_ok_iff.mpr ⟨_, hkeys, rfl⟩⟩

theorem Order.exists_byName {α : Type} (name : α → Json) (xs : List α)
    (h : ∀ x ∈ xs, (name x).isText = true) : ∃ ys, Order.byName name xs = .ok ys := by
  have hpairs : ∃ pairs, Order.keyed (fun x => (name x).sortKey) xs = .ok pairs := by
    refine Outcome.exists_mapM_ok fun x hx => ?_
    obtain ⟨k, hk⟩ := Json.exists_sortKey (h x hx)
    exact ⟨(k, x), Outcome.bind_eq_ok_iff.mpr ⟨k, hk, rfl⟩⟩
  obtain ⟨pairs, hpairs⟩ := hpairs
  exact ⟨_, Outcome.bind_eq_ok_iff.mpr ⟨pairs, hpairs, rfl⟩⟩

theorem Table.exists_outline {t : Table} (h : ∀ f ∈ t.fields, f.Sortable) :
    ∃ o, t.outline = .ok o := by
  obtain ⟨rs, hrs⟩ := Table.exists_relationships h
  obtain ⟨columns, hc⟩ := Order.exists_byName Field.name t.columns
    fun f hf => (h f (List.mem_filter.mp hf).1).name
  have ho : t.outline = .ok _ := Outcome.bind_eq_ok_iff.mpr
    ⟨rs, hrs, Outcome.bind_eq_ok_iff.mpr ⟨columns, hc, rfl⟩⟩
  exact ⟨_, ho⟩

theorem Schema.exists_outline {s : Schema} (h : s.Sortable) : ∃ o, s.outline = .ok o := by
  have ht : ∃ tables, s.orderedTables.mapM Table.outline = .ok tables :=
    Outcome.exists_mapM_ok fun t ht =>
      Table.exists_outline (h t ((Order.sorted_perm _ _).mem_iff.mp ht))
  obtain ⟨tables, ht⟩ := ht
  exact ⟨_, Outcome.bind_eq_ok_iff.mpr ⟨tables, ht, rfl⟩⟩

/-- a model with kinds, types, flags and references that mean nothing; the variant of the enum can be
given -/
def Json.oddities (variant : Json) : Json :=
  .object
    [("models", .list [.object
      [("name", "Odd"), ("documentation", .list [.null, .int 1, .list ["a"]]),
       ("fields", .list
        [.object [("name", "a"), ("kind", .int 3), ("isList", "no")],
         .object [("name", "b"), ("kind", "scalar"), ("type", "Nothing"), ("isRequired", .null)],
         .object [("name", "c"), ("kind", "enum"), ("hasDefaultValue", .list [])],
         .object [("name", "d"), ("kind", "object"), ("type", "Gone"), ("relationName", "R"),
          ("relationFromFields", .list ["x", "y"]), ("relationToFields", .list ["z"])]])]]),
     ("enums", .list [.object [("name", "E"), ("values", .list [variant])]]),
     ("types", .list [.object [("name", "T"), ("fields", .list [.object [("name", "m")]])],
       .object [("name", "U"), ("fields", .null)]])]

end DatabaseTypes
