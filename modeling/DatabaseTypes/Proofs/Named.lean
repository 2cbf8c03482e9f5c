import DatabaseTypes.Proofs.Outline

/-!
# Names that stand in code

Some names stand in the output as they are and not as string literals: those of columns and of
members, those of the enums and the composite types that a type refers to, and the targets of
relations in a composite type.

* `Shape.namesIdentifiers`   whatever the type of a field names is an identifier
* `Schema.isWellNamed`       every name that stands in the output as it is is an identifier
* `Schema.isTextual`         every other name is a text
* `Classifier.Ensures`       what holds of every type that names identifiers only
* `Outline.WellNamed`, `Outline.Textual`   the same for an outline, whose columns are no relations
-/

namespace DatabaseTypes

/-- is the value a text that is an identifier? -/
def Json.isIdentifier : Json → Bool
  | .text t => Key.isIdentifier t
  | _ => false

/-- is whatever the type of a field names an identifier? -/
def Shape.namesIdentifiers : Shape → Bool
  | .enum name => Key.isIdentifier name
  | .composite name => Key.isIdentifier name
  | .relation r => Key.isIdentifier r.target
  | _ => true

/-- are the name of a field and, unless it is a relation, the names in its type identifiers? -/
def Field.isWellNamed (f : Field) : Bool :=
  f.name.isIdentifier && (f.isRelation || f.shape.namesIdentifiers)

/-- are the name of a member and the names in its type identifiers? -/
def Member.isWellNamed (m : Member) : Bool :=
  m.name.isIdentifier && m.type.all fun f => f.shape.namesIdentifiers

/-- is every name that stands in the output as it is an identifier? -/
def Schema.isWellNamed (s : Schema) : Bool :=
  (s.tables.all fun t => t.fields.all Field.isWellNamed)
    && s.composites.all fun x => x.members.all Member.isWellNamed

/-- is the value a text? -/
def Json.isText : Json → Bool
  | .text _ => true
  | _ => false

/-- are the name and the columns of a relation texts? -/
def Shape.namesTexts : Shape → Bool
  | .relation r => r.name.isText && r.columns.all Json.isText && r.referenced.all Json.isText
  | _ => true

/-- are the names that may be values of any kind texts, besides those of fields and members? -/
def Schema.isTextual (s : Schema) : Bool :=
  (s.tables.all fun t => t.fields.all fun f => f.shape.namesTexts)
    && s.enums.all fun x => x.variants.all fun v => v.name.isText

theorem Json.exists_of_isText {v : Json} (h : v.isText = true) : ∃ t, v = .text t := by
  cases v with
  | text t => exact ⟨t, rfl⟩
  | null => cases h
  | bool => cases h
  | int => cases h
  | float => cases h
  | list => cases h
  | object => cases h

theorem Json.exists_of_isIdentifier {v : Json} (h : v.isIdentifier = true) :
    ∃ t, v = .text t ∧ Key.isIdentifier t = true := by
  cases v with
  | text t => exact ⟨t, rfl, h⟩
  | null => cases h
  | bool => cases h
  | int => cases h
  | float => cases h
  | list => cases h
  | object => cases h

/-! ## characters of identifiers -/

theorem Key.isTail_of_mem {name : Text} (h : Key.isIdentifier name = true) :
    ∀ c ∈ name, Key.isTail c = true := by
  cases name with
  | nil => cases h
  | cons c t =>
    rw [Key.isIdentifier, Bool.and_eq_true, List.all_eq_true] at h
    intro d hd
    rcases List.mem_cons.mp hd with rfl | hd
    · rw [Key.isTail, h.1, Bool.true_or]
    · exact h.2 d hd

/-- a character that is not one of an identifier does not occur in it -/
theorem Key.ne_of_isTail {c d : Char} (h : Key.isTail c = true) (hd : Key.isTail d = false) :
    c ≠ d := by
  rintro rfl
  rw [h] at hd
  cases hd

/-- a bare key is an identifier with or without a line end -/
theorem Key.exists_of_isBare {name : Text} (h : Key.isBare name = true) :
    ∃ i e, Key.isIdentifier i = true ∧ (e = [] ∨ e = ['\n']) ∧ name = i ++ e := by
  rw [Key.isBare, Bool.or_eq_true, Bool.and_eq_true] at h
  rcases h with h | ⟨hn, h⟩
  · exact ⟨name, [], h, .inl rfl, (List.append_nil _).symm⟩
  · exact ⟨_, _, h, .inr rfl, (List.dropLast_append_getLast? '\n' (beq_iff_eq.mp hn)).symm⟩

theorem Key.exists_cons_of_isIdentifier {name : Text} (h : Key.isIdentifier name = true) :
    ∃ c t, name = c :: t ∧ Key.isTail c = true := by
  cases name with
  | nil => cases h
  | cons c t => exact ⟨c, t, rfl, Key.isTail_of_mem h c List.mem_cons_self⟩

/-! ## types -/

/-- a property that every text has that is a type and names identifiers only -/
structure Classifier.Ensures (c : Classifier) (P : Text → Prop) : Prop where
  scalar : ∀ x, P (c.scalars x)
  unknown : P unknownType
  never : P neverType
  reference : ∀ {entries name}, Key.isIdentifier entries = true → Key.isIdentifier name = true →
    P (c.reference entries name)
  identifier : ∀ {t}, Key.isIdentifier t = true → P t
  orNull : ∀ {t}, P t → P (unionType [t, nullType])

namespace Classifier.Ensures

variable {c : Classifier} {P : Text → Prop} (hc : c.Ensures P)
include hc

theorem typeOf {f : Field} (h : f.shape.namesIdentifiers = true) : P (c.typeOf f) := by
  unfold Classifier.typeOf
  cases hs : f.shape with
  | scalar x =>
    cases x with
    | none => exact hc.unknown
    | some x => exact hc.scalar x
  | enum name => rw [hs] at h; exact hc.reference (by decide) h
  | composite name => rw [hs] at h; exact hc.reference (by decide) h
  | relation r => rw [hs] at h; exact hc.identifier h
  | unsupported kind => exact hc.unknown

theorem readType {f : Field} (h : f.shape.namesIdentifiers = true) : P (c.readType f) := by
  unfold Classifier.readType withNull
  split
  · exact hc.typeOf h
  · exact hc.orNull (hc.typeOf h)

theorem memberType {m : Member} (h : m.isWellNamed = true) : P (c.memberType m.type) := by
  rw [Member.isWellNamed, Bool.and_eq_true] at h
  cases ht : m.type with
  | none => exact hc.unknown
  | some f =>
    rw [ht] at h
    exact hc.orNull (hc.typeOf h.2)

/-! the members of the records of columns whose names are identifiers -/

variable {fs : List Field}
  (hf : ∀ f ∈ fs, f.name.isIdentifier = true ∧ f.shape.namesIdentifiers = true)
include hf

theorem row : ∀ p ∈ fs.map c.row, p.name.isIdentifier = true ∧ P p.type := by
  intro p hp
  obtain ⟨f, hm, rfl⟩ := List.mem_map.mp hp
  exact ⟨(hf f hm).1, hc.readType (hf f hm).2⟩

theorem insert : ∀ p ∈ fs.map c.insert, p.name.isIdentifier = true ∧ P p.type := by
  intro p hp
  obtain ⟨f, hm, rfl⟩ := List.mem_map.mp hp
  unfold Classifier.insert
  split
  · exact ⟨(hf f hm).1, hc.never⟩
  · exact ⟨(hf f hm).1, hc.readType (hf f hm).2⟩

theorem update : ∀ p ∈ fs.map c.update, p.name.isIdentifier = true ∧ P p.type := by
  intro p hp
  obtain ⟨f, hm, rfl⟩ := List.mem_map.mp hp
  unfold Classifier.update
  split
  · exact ⟨(hf f hm).1, hc.never⟩
  · exact ⟨(hf f hm).1, hc.readType (hf f hm).2⟩

end Classifier.Ensures

theorem Classifier.reference_eq (c : Classifier) (entries name : Text) :
    c.reference entries name = "Database".toList
      ++ ('[' :: ('\'' :: c.schemaName ++ ['\'']) ++ [']'])
      ++ ('[' :: ('\'' :: entries ++ ['\'']) ++ [']'])
      ++ ('[' :: ('\'' :: name ++ ['\'']) ++ [']']) := by
  unfold Classifier.reference
  have h₁ : "Database['".toList = "Database".toList ++ ['[', '\''] := by simp
  have h₂ : "']['".toList = ['\'', ']', '[', '\''] := by simp
  have h₃ : "']".toList = ['\'', ']'] := by simp
  rw [h₁, h₂, h₃]
  simp only [List.append_assoc, List.cons_append, List.nil_append]

/-! ## outlines -/

/-- every name that stands in the output as it is is an identifier -/
structure Outline.WellNamed (o : Outline) : Prop where
  columns : ∀ t ∈ o.tables, ∀ f ∈ t.columns,
    f.name.isIdentifier = true ∧ f.shape.namesIdentifiers = true
  members : ∀ x ∈ o.composites, ∀ m ∈ x.members, m.isWellNamed = true

theorem Schema.wellNamed_outline {s : Schema} {o : Outline} (h : s.outline = .ok o)
    (hs : s.isWellNamed = true) : o.WellNamed := by
  rw [Schema.isWellNamed, Bool.and_eq_true, List.all_eq_true, List.all_eq_true] at hs
  constructor
  · intro t ht f hf
    obtain ⟨u, hu, e⟩ := Schema.exists_table h ht
    have hc : f ∈ u.columns := (Table.columns_outline e).mem_iff.mp hf
    obtain ⟨hfields, hrel⟩ := List.mem_filter.mp hc
    have hw := List.all_eq_true.mp (hs.1 u hu) f hfields
    rw [Field.isWellNamed, Bool.and_eq_true, Bool.or_eq_true] at hw
    refine ⟨hw.1, hw.2.resolve_left fun e => ?_⟩
    rw [e] at hrel
    cases hrel
  · intro x hx
    exact List.all_eq_true.mp (hs.2 x ((Schema.mem_composites h).mp hx).1)

/-- are the names in a foreign key texts? -/
structure Relationship.Textual (r : Relationship) : Prop where
  name : r.name.isText = true
  columns : ∀ v ∈ r.columns, v.isText = true
  referenced : ∀ v ∈ r.referenced, v.isText = true

/-- every other name is a text -/
structure Outline.Textual (o : Outline) : Prop where
  relationships : ∀ t ∈ o.tables, ∀ r ∈ t.relationships, r.Textual
  variants : ∀ x ∈ o.enums, ∀ v ∈ x.variants, v.name.isText = true

theorem Schema.textual_outline {s : Schema} {o : Outline} (h : s.outline = .ok o)
    (hs : s.isTextual = true) : o.Textual := by
  rw [Schema.isTextual, Bool.and_eq_true, List.all_eq_true, List.all_eq_true] at hs
  constructor
  · intro t ht r hr
    obtain ⟨u, hu, e⟩ := Schema.exists_table h ht
    obtain ⟨f, hf, l, hl, rfl⟩ := Table.exists_relation e hr
    have hw := List.all_eq_true.mp (hs.1 u hu) f hf
    rw [hl, Shape.namesTexts, Bool.and_eq_true, Bool.and_eq_true, List.all_eq_true,
      List.all_eq_true] at hw
    exact ⟨hw.1.1, hw.1.2, hw.2⟩
  · intro x hx
    exact List.all_eq_true.mp (hs.2 x ((Schema.mem_enums h).mp hx).1)

end DatabaseTypes
