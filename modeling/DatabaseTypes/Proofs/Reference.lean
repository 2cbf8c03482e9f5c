import DatabaseTypes.Proofs.Determined

/-!
# References

The type of a column or of a member may refer to an entry of the output: to an enum or to a composite
type.  An enum without variants and a composite type without members have no entry, so that a
reference to one of them has nothing to refer to, and neither has one that a relation in a composite
type spells out as its target.  All others refer to an entry.

* `Emission.types`         the types in an output
* `Schema.refersTo`        do all fields refer to some of the enums and the composite types?
* `eq_of_infix_reference`        a reference holds no other reference
* `generateTypes_refers`   whatever an output refers to has an entry in it
-/

namespace DatabaseTypes

/-! ## what an output refers to -/

/-- the types in the records of a table -/
def Outline.Table.types (c : Classifier) (t : Outline.Table) : List Text :=
  (t.columns.map c.row ++ t.columns.map c.insert ++ t.columns.map c.update).map Projection.type

/-- the types in the records of the tables and in the composite types of an output -/
def Emission.types (e : Emission) (o : Outline) : List Text :=
  (o.tables.flatMap (Outline.Table.types (e.classifierOf o)))
    ++ o.composites.flatMap fun x => x.members.map fun m => (e.classifierOf o).memberType m.type

/-- does a type refer only to these enums and composite types? -/
def Classifier.RefersTo (c : Classifier) (enums composites : List Text) (type : Text) : Prop :=
  ∀ name, (c.reference "Enums" name <:+: type → name ∈ enums)
    ∧ (c.reference "CompositeTypes" name <:+: type → name ∈ composites)

/-- every reference in a type of an output has its entry in the output -/
def Emission.RefersToEntries (e : Emission) (o : Outline) : Prop :=
  ∀ type ∈ e.types o,
    (e.classifierOf o).RefersTo (o.enums.map Enum.key) (o.composites.map Composite.key) type

/-- does a field refer to an identifier among those of enums or composite types, if at all? -/
def Shape.refersTo (enums composites : List Text) : Shape → Bool
  | .enum name => Key.isIdentifier name && enums.contains name
  | .composite name => Key.isIdentifier name && composites.contains name
  | _ => true

/-- do all fields of tables and of composite types refer to some of these enums and composite types,
if at all? -/
def Schema.refersTo (s : Schema) (enums composites : List Text) : Bool :=
  (s.tables.all fun t => t.fields.all fun f => f.shape.refersTo enums composites)
    && s.composites.all fun x => x.members.all fun m =>
      m.type.all fun f => f.shape.refersTo enums composites

/-- do all fields refer to enums and composite types that the model declares? -/
def Schema.refersToDeclared (s : Schema) : Bool :=
  s.refersTo (s.enums.map Enum.name) (s.composites.map Composite.name)

/-- do all fields refer to enums with a variant and composite types with a member? -/
def Schema.refersToFilled (s : Schema) : Bool :=
  s.refersTo ((s.enums.filter fun x => !x.variants.isEmpty).map Enum.name)
    ((s.composites.filter fun x => !x.members.isEmpty).map Composite.name)

/-- a text without references to enums and composite types -/
def Classifier.RefersToNothing (c : Classifier) (t : Text) : Prop :=
  ∀ name, ¬ c.reference "Enums" name <:+: t ∧ ¬ c.reference "CompositeTypes" name <:+: t

/-- no relation in a composite type has a target that spells out a reference -/
def Schema.SpellsNoReference (s : Schema) : Prop :=
  ∀ x ∈ s.composites, ∀ m ∈ x.members, ∀ f ∈ m.type, ∀ r, f.shape = .relation r →
    Classifier.RefersToNothing {} r.target

/-! ## references in types -/

/-- a text that ends with a character that the second half has not is in the first half -/
theorem infix_of_infix_append {u v w : Text} {c : Char} (h : u ++ [c] <:+: v ++ w) (hc : c ∉ w) :
    u ++ [c] <:+: v := by
  obtain ⟨a, b, e⟩ := h
  rcases List.append_eq_append_iff.mp e with ⟨r, rfl, _⟩ | ⟨r, er, rfl⟩
  · exact ⟨a, r, rfl⟩
  · rcases List.eq_nil_or_concat r with rfl | ⟨r, d, rfl⟩
    · exact ⟨a, [], by rw [er, List.append_nil, List.append_nil]⟩
    · have hd : c = d := by simpa using congrArg List.getLast? er
      exact absurd (by simp [hd]) hc

/-- a text without brackets holds no reference -/
theorem not_infix_reference {c : Classifier} {entries name t : Text} (h : '[' ∉ t) :
    ¬ c.reference entries name <:+: t := by
  intro hi
  refine h (hi.subset ?_)
  rw [Classifier.reference_eq]
  simp

theorem not_mem_identifier {name : Text} (h : Key.isIdentifier name = true) {d : Char}
    (hd : Key.isTail d = false) : d ∉ name :=
  fun hm => Key.ne_of_isTail (Key.isTail_of_mem h d hm) hd rfl

theorem not_mem_of_count {t : Text} {d : Char} (h : t.count d = 0) : ∀ c ∈ t, (c != d) = true := by
  intro c hc
  rw [bne_iff_ne]
  rintro rfl
  exact List.count_eq_zero.mp h hc

/-- a reference with identifiers in it holds no other reference -/
theorem eq_of_infix_reference {c : Classifier} {entries name entries' name' : Text}
    (hc : Key.isIdentifier c.schemaName = true) (he : Key.isIdentifier entries = true)
    (he' : Key.isIdentifier entries' = true) (hn' : Key.isIdentifier name' = true)
    (h : c.reference entries name <:+: c.reference entries' name') :
    entries = entries' ∧ name = name' := by
  obtain ⟨a, b, e⟩ := h
  rw [Classifier.reference_eq, Classifier.reference_eq] at e
  have hzero : ∀ {t : Text}, Key.isIdentifier t = true → t.count '[' = 0 := fun ht =>
    List.count_eq_zero.mpr (not_mem_identifier ht (by decide))
  -- the brackets are those of the one reference, so that nothing comes before it
  have ha : a.count '[' = 0 := by
    have hcount := congrArg (List.count '[') e
    simp only [List.count_append, List.count_cons, List.count_nil, hzero hc, hzero he, hzero he',
      hzero hn'] at hcount
    simp at hcount
    omega
  simp only [List.append_assoc, List.cons_append, List.nil_append] at e
  rw [← List.append_assoc] at e
  have hword : ∀ c ∈ "Database".toList, (c != '[') = true := by
    rw [← List.all_eq_true]
    rfl
  obtain ⟨_, e⟩ := settles_span (· != '[')
    (List.forall_mem_append.mpr ⟨not_mem_of_count ha, hword⟩) hword
    (by rintro c ⟨⟩; rfl) (by rintro c ⟨⟩; rfl) e
  simp only [List.cons.injEq, true_and, List.append_cancel_left_eq] at e
  obtain ⟨hentries, e⟩ := settles_identifier he he' (by rintro c ⟨⟩; rfl) (by rintro c ⟨⟩; rfl) e
  simp only [List.cons.injEq, true_and] at e
  -- the name ends at the only quote that is left
  have hn : name.count '\'' = 0 := by
    have hcount := congrArg (List.count '\'') e
    simp only [List.count_append, List.count_cons, List.count_nil,
      List.count_eq_zero.mpr (not_mem_identifier hn' (d := '\'') (by decide))] at hcount
    simp at hcount
    omega
  obtain ⟨hname, _⟩ := settles_span (· != '\'') (not_mem_of_count hn)
    (not_mem_of_count (List.count_eq_zero.mpr (not_mem_identifier hn' (by decide))))
    (by rintro c ⟨⟩; rfl) (by rintro c ⟨⟩; rfl) e
  exact ⟨hentries, hname⟩

theorem not_bracket_mem_standard (x : Scalar) : '[' ∉ ScalarTable.standard x := by
  cases x <;> decide

section
variable {c : Classifier} {enums composites : List Text}

theorem refersTo_of_not_mem {t : Text} (h : '[' ∉ t) : c.RefersTo enums composites t :=
  fun _ => ⟨fun hi => absurd hi (not_infix_reference h), fun hi => absurd hi (not_infix_reference h)⟩

theorem Classifier.RefersTo.orNull {t : Text} (h : c.RefersTo enums composites t) :
    c.RefersTo enums composites (unionType [t, nullType]) := by
  have hleft : ∀ {entries name : Text}, c.reference entries name <:+: unionType [t, nullType] →
      c.reference entries name <:+: t := by
    intro entries name hi
    rw [Classifier.reference_eq, ← List.cons_append, ← List.append_assoc] at hi ⊢
    have hu : unionType [t, nullType] = t ++ (" | " ++ nullType) := by
      rw [unionType, Text.joined_cons_cons, Text.joined_single, List.append_assoc]
    rw [hu] at hi
    exact infix_of_infix_append hi (by decide)
  exact fun name => ⟨fun hi => (h name).1 (hleft hi), fun hi => (h name).2 (hleft hi)⟩

variable (hc : Key.isIdentifier c.schemaName = true) (hscalars : ∀ x, '[' ∉ c.scalars x) {f : Field}
  (hf : f.shape.refersTo enums composites = true)
  (hr : ∀ r, f.shape = .relation r → c.RefersToNothing r.target)
include hc hscalars hf hr

/-- the type of a field refers to what the field refers to -/
theorem refersTo_typeOf : c.RefersTo enums composites (c.typeOf f) := by
  unfold Classifier.typeOf
  cases hs : f.shape with
  | scalar x =>
    cases x with
    | none => exact refersTo_of_not_mem (t := unknownType) (by decide)
    | some x => exact refersTo_of_not_mem (hscalars x)
  | enum name =>
    rw [hs, Shape.refersTo, Bool.and_eq_true, List.contains_iff_mem] at hf
    refine fun name' => ⟨fun hi => ?_, fun hi => ?_⟩
    · rw [(eq_of_infix_reference hc (by decide) (by decide) hf.1 hi).2]
      exact hf.2
    · exact absurd (eq_of_infix_reference hc (by decide) (by decide) hf.1 hi).1 (by decide)
  | composite name =>
    rw [hs, Shape.refersTo, Bool.and_eq_true, List.contains_iff_mem] at hf
    refine fun name' => ⟨fun hi => ?_, fun hi => ?_⟩
    · exact absurd (eq_of_infix_reference hc (by decide) (by decide) hf.1 hi).1 (by decide)
    · rw [(eq_of_infix_reference hc (by decide) (by decide) hf.1 hi).2]
      exact hf.2
  | relation r =>
    have hr := hr r hs
    exact fun name => ⟨fun hi => absurd hi (hr name).1, fun hi => absurd hi (hr name).2⟩
  | unsupported kind => exact refersTo_of_not_mem (t := unknownType) (by decide)

theorem refersTo_readType : c.RefersTo enums composites (c.readType f) := by
  have h := refersTo_typeOf hc hscalars hf hr
  unfold Classifier.readType withNull
  split
  · exact h
  · exact h.orNull

end

section
variable {c : Classifier} {enums composites : List Text}
  (hc : Key.isIdentifier c.schemaName = true) (hscalars : ∀ x, '[' ∉ c.scalars x)
include hc hscalars

theorem refersTo_tableTypes {t : Outline.Table}
    (h : ∀ f ∈ t.columns, f.isRelation = false ∧ f.shape.refersTo enums composites = true) :
    ∀ type ∈ t.types c, c.RefersTo enums composites type := by
  intro type ht
  obtain ⟨p, hp, rfl⟩ := List.mem_map.mp ht
  have hnever : c.RefersTo enums composites neverType := refersTo_of_not_mem (by decide)
  have hread : ∀ f ∈ t.columns, c.RefersTo enums composites (c.readType f) := by
    intro f hf
    refine refersTo_readType hc hscalars (h f hf).2 fun r hr => ?_
    have hrel := (h f hf).1
    rw [Field.isRelation, hr] at hrel
    cases hrel
  rw [List.mem_append, List.mem_append] at hp
  rcases hp with (hp | hp) | hp
  · obtain ⟨f, hf, rfl⟩ := List.mem_map.mp hp
    exact hread f hf
  · obtain ⟨f, hf, rfl⟩ := List.mem_map.mp hp
    unfold Classifier.insert
    split
    · exact hnever
    · exact hread f hf
  · obtain ⟨f, hf, rfl⟩ := List.mem_map.mp hp
    unfold Classifier.update
    split
    · exact hnever
    · exact hread f hf

theorem refersTo_memberType {m : Member}
    (h : ∀ f ∈ m.type, f.shape.refersTo enums composites = true
      ∧ ∀ r, f.shape = .relation r → c.RefersToNothing r.target) :
    c.RefersTo enums composites (c.memberType m.type) := by
  cases hm : m.type with
  | none => exact refersTo_of_not_mem (t := unknownType) (by decide)
  | some f =>
    obtain ⟨hf, hr⟩ := h f hm
    exact (refersTo_typeOf hc hscalars hf hr).orNull

end

/-! ## outputs -/

/-- the names of enums with a variant and of composite types with a member are keys of the output, if
they are identifiers -/
theorem Schema.refersTo_outline {s : Schema} {o : Outline} (h : s.outline = .ok o) (hk : o.Keyed)
    {shape : Shape} (hs : shape.refersTo ((s.enums.filter fun x => !x.variants.isEmpty).map Enum.name)
      ((s.composites.filter fun x => !x.members.isEmpty).map Composite.name) = true) :
    shape.refersTo (o.enums.map Enum.key) (o.composites.map Composite.key) = true := by
  cases shape with
  | enum name =>
    rw [Shape.refersTo, Bool.and_eq_true, List.contains_iff_mem] at hs ⊢
    obtain ⟨hi, hm⟩ := hs
    obtain ⟨x, hx, rfl⟩ := List.mem_map.mp hm
    have hx : x ∈ o.enums := (Schema.mem_enums h).mpr (by simpa using hx)
    exact ⟨hi, List.mem_map.mpr ⟨x, hx, (hk.enums x hx).trans (Key.ofName_of_isIdentifier hi)⟩⟩
  | composite name =>
    rw [Shape.refersTo, Bool.and_eq_true, List.contains_iff_mem] at hs ⊢
    obtain ⟨hi, hm⟩ := hs
    obtain ⟨x, hx, rfl⟩ := List.mem_map.mp hm
    have hx : x ∈ o.composites := (Schema.mem_composites h).mpr (by simpa using hx)
    exact ⟨hi, List.mem_map.mpr ⟨x, hx, (hk.composites x hx).trans (Key.ofName_of_isIdentifier hi)⟩⟩
  | scalar => rfl
  | relation => rfl
  | unsupported => rfl

/-- a target that is an identifier spells out no reference -/
theorem Schema.spellsNoReference {s : Schema} (h : s.isWellNamed = true) : s.SpellsNoReference := by
  rw [Schema.isWellNamed, Bool.and_eq_true, List.all_eq_true, List.all_eq_true] at h
  intro x hx m hm f hf r hr
  have hw := List.all_eq_true.mp (h.2 x hx) m hm
  rw [Member.isWellNamed, hf, Bool.and_eq_true, Option.all_some, hr] at hw
  have hb : '[' ∉ r.target := not_mem_identifier hw.2 (by decide)
  exact fun _ => ⟨not_infix_reference hb, not_infix_reference hb⟩

/-- **Whatever an output refers to has an entry in it**, as long as the fields of the model refer to
enums with a variant and to composite types with a member, and no relation in a composite type has a
target that spells out a reference. -/
theorem generateTypes_refers {datamodel : Json} {documentation : Bool} {t : Text} {s : Schema}
    (h : generateTypes datamodel documentation = .ok t) (hs : Schema.ofJson datamodel = .ok s)
    (hr : s.refersToFilled = true) (ht : s.SpellsNoReference) :
    ∃ o, s.outline = .ok o ∧ (Emission.page { documentation } o).text = t
      ∧ Emission.RefersToEntries { documentation } o := by
  obtain ⟨s', o, hs', ho, e⟩ := generateTypes_eq_ok_iff.mp h
  cases hs.symm.trans hs'
  have hk := (Schema.keyed_ofJson hs).outline ho
  have hc : Key.isIdentifier (Emission.classifierOf { documentation } o).schemaName = true :=
    hk.isIdentifier_name
  rw [Schema.refersToFilled, Schema.refersTo, Bool.and_eq_true, List.all_eq_true,
    List.all_eq_true] at hr
  refine ⟨o, ho, e, fun type htype => ?_⟩
  rcases List.mem_append.mp htype with htype | htype
  · obtain ⟨u, hu, htype⟩ := List.mem_flatMap.mp htype
    refine refersTo_tableTypes hc not_bracket_mem_standard (fun f hf => ?_) type htype
    obtain ⟨v, hv, hcolumns⟩ := Schema.exists_table ho hu
    obtain ⟨hf, hrel⟩ := List.mem_filter.mp ((Table.columns_outline hcolumns).mem_iff.mp hf)
    exact ⟨by simpa using hrel,
      Schema.refersTo_outline ho hk (List.all_eq_true.mp (hr.1 v hv) f hf)⟩
  · obtain ⟨x, hx, htype⟩ := List.mem_flatMap.mp htype
    obtain ⟨m, hm, rfl⟩ := List.mem_map.mp htype
    have hxs := ((Schema.mem_composites ho).mp hx).1
    refine refersTo_memberType hc not_bracket_mem_standard fun f hf => ⟨?_, fun r hshape => ?_⟩
    · have hall := List.all_eq_true.mp (hr.2 x hxs) m hm
      rw [hf] at hall
      exact Schema.refersTo_outline ho hk hall
    · have hname : Classifier.reference {} = (Emission.classifierOf { documentation } o).reference := by
        show Classifier.reference {} = Classifier.reference ⟨_, o.name⟩
        rw [hk.name]
        rfl
      rw [Classifier.RefersToNothing, ← hname]
      exact ht x hxs m hm f hf r hshape

/-- a model with a column and a member that refer to an enum; the variants of the enum and the target
of a relation in the composite type can be given -/
def Json.roles (values : List Json) (target : Json) : Json :=
  .object
    [("models", .list [.object
      [("name", "User"), ("fields", .list
        [.object [("name", "role"), ("kind", "enum"), ("type", "Role")],
         .object [("name", "home"), ("kind", "object"), ("type", "Home")]])]]),
     ("enums", .list [.object [("name", "Role"), ("values", .list values)]]),
     ("types", .list [.object
      [("name", "Home"), ("fields", .list
        [.object [("name", "role"), ("kind", "enum"), ("type", "Role")],
         .object [("name", "owner"), ("kind", "object"), ("type", target),
          ("relationName", "HomeOwner")]])]])]

theorem generateTypes_refers_roles :
    ∃ t s o, generateTypes (.roles [.object [("name", "ADMIN")]] "User") true = .ok t
      ∧ Schema.ofJson (.roles [.object [("name", "ADMIN")]] "User") = .ok s
      ∧ s.outline = .ok o ∧ Emission.RefersToEntries {} o := by
  have h : ∃ t, generateTypes (.roles [.object [("name", "ADMIN")]] "User") true = .ok t := ⟨_, rfl⟩
  have hs : ∃ s, Schema.ofJson (.roles [.object [("name", "ADMIN")]] "User") = .ok s
      ∧ s.refersToFilled = true ∧ s.isWellNamed = true := ⟨_, rfl, rfl, rfl⟩
  obtain ⟨t, h⟩ := h
  obtain ⟨s, hs, hr, hn⟩ := hs
  obtain ⟨o, ho, _, hentries⟩ := generateTypes_refers h hs hr (Schema.spellsNoReference hn)
  exact ⟨t, s, o, h, hs, ho, hentries⟩

/-- an enum without variants can be referred to although it has no entry, and so can whatever the
target of a relation in a composite type spells out -/
theorem references_without_entry :
    (∃ t s o, generateTypes (.roles [] "User") true = .ok t
      ∧ Schema.ofJson (.roles [] "User") = .ok s ∧ s.outline = .ok o ∧ s.refersToDeclared = true
      ∧ ¬ Emission.RefersToEntries {} o)
    ∧ ∃ t s o, generateTypes
        (.roles [.object [("name", "ADMIN")]] "Database['public']['Enums']['X']") true = .ok t
      ∧ Schema.ofJson (.roles [.object [("name", "ADMIN")]] "Database['public']['Enums']['X']") = .ok s
      ∧ s.outline = .ok o ∧ s.refersToDeclared = true ∧ ¬ Emission.RefersToEntries {} o := by
  refine ⟨⟨_, _, _, rfl, rfl, rfl, rfl, fun h => ?_⟩, ⟨_, _, _, rfl, rfl, rfl, rfl, fun h => ?_⟩⟩
  · have hm := (h _ (List.Mem.tail _ (List.Mem.head _)) "Role").1 ⟨[], [], rfl⟩
    cases hm
  · have hm := (h _ (List.mem_append_right _ (List.mem_flatMap.mpr ⟨_, List.Mem.head _,
      List.mem_map.mpr ⟨_, List.Mem.tail _ (List.Mem.head _), rfl⟩⟩)) "X").1 ⟨[], " | null".toList, rfl⟩
    rcases List.mem_cons.mp hm with hm | hm
    · cases hm
    · cases hm

end DatabaseTypes
