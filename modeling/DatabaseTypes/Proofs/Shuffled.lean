import DatabaseTypes.Proofs.Determined
import DatabaseTypes.Proofs.Drawn
import DatabaseTypes.Proofs.Outline
import DatabaseTypes.Proofs.Sorted

/-!
# Models in another order

The order in which a model declares its tables, enums and composite types and the fields of its tables
does not show in the output, if their names are ASCII and different from each other.

* `Json.Rearranged`   a model with its declarations in another order
* `Schema.Shuffled`   a schema with its parts in another order
* `Schema.Labelled`   a schema with different ASCII names
* `generateTypes_rearranged`   a rearranged model has the same output
-/

namespace DatabaseTypes

/-! ## rearranged models -/

/-- two values with the same members but for the elements of one of them, which may be in another
order -/
structure Json.ShuffledAt (key : Text) (v v' : Json) : Prop where
  elements : ∃ xs xs', v.elementsAt key = .ok xs ∧ v'.elementsAt key = .ok xs' ∧ xs.Perm xs'
  others : ∀ k, k ≠ key → v.lookup k = v'.lookup k

/-- two models with the same declarations, which may be in another order, as may be the fields of
each table -/
structure Json.Rearranged (datamodel datamodel' : Json) : Prop where
  models : ∃ xs ys xs', datamodel.elementsAt "models" = .ok xs
    ∧ xs.Perm ys ∧ List.Forall₂ (Json.ShuffledAt "fields") ys xs'
    ∧ datamodel'.elementsAt "models" = .ok xs'
  enums : ∃ xs xs', datamodel.elementsAt "enums" = .ok xs
    ∧ datamodel'.elementsAt "enums" = .ok xs' ∧ xs.Perm xs'
  types : ∃ xs xs', datamodel.elementsAt "types" = .ok xs
    ∧ datamodel'.elementsAt "types" = .ok xs' ∧ xs.Perm xs'

/-- two tables with the same fields, which may be in another order -/
structure Table.Shuffled (t t' : Table) : Prop where
  name : t'.name = t.name
  key : t'.key = t.key
  documentation : t'.documentation = t.documentation
  fields : t.fields.Perm t'.fields

/-- two schemas with the same parts, which may be in another order -/
structure Schema.Shuffled (s s' : Schema) : Prop where
  name : s'.name = s.name
  key : s'.key = s.key
  tables : ∃ ts, s.tables.Perm ts ∧ List.Forall₂ Table.Shuffled ts s'.tables
  enums : s.enums.Perm s'.enums
  composites : s.composites.Perm s'.composites

theorem Json.demand_eq_ok_iff {key : Text} {v w : Json} :
    v.demand key = .ok w ↔ v.lookup key = .ok (some w) := by
  cases v with
  | object members =>
    rw [Json.demand, Json.lookup]
    cases members.lookup key <;> simp
  | null => simp [Json.demand, Json.lookup]
  | bool => simp [Json.demand, Json.lookup]
  | int => simp [Json.demand, Json.lookup]
  | float => simp [Json.demand, Json.lookup]
  | text => simp [Json.demand, Json.lookup]
  | list => simp [Json.demand, Json.lookup]

theorem Table.ofJson_shuffled {v v' : Json} (h : v.ShuffledAt "fields" v') {t : Table}
    (ht : Table.ofJson v = .ok t) : ∃ t', Table.ofJson v' = .ok t' ∧ t.Shuffled t' := by
  obtain ⟨xs, xs', hx, hx', hperm⟩ := h.elements
  obtain ⟨rawName, hraw, ht⟩ := Outcome.bind_eq_ok_iff.mp ht
  obtain ⟨name, hname, ht⟩ := Outcome.bind_eq_ok_iff.mp ht
  obtain ⟨ys, hy, ht⟩ := Outcome.bind_eq_ok_iff.mp ht
  obtain ⟨fields, hfields, ht⟩ := Outcome.bind_eq_ok_iff.mp ht
  obtain ⟨rawLines, hlines, ht⟩ := Outcome.bind_eq_ok_iff.mp ht
  obtain ⟨lines, hdoc, ht⟩ := Outcome.bind_eq_ok_iff.mp ht
  cases ht
  cases hx.symm.trans hy
  obtain ⟨fields', hfields', hp⟩ := Outcome.mapM_perm hperm hfields
  rw [Json.demand_eq_ok_iff, h.others _ (by decide), ← Json.demand_eq_ok_iff] at hraw
  rw [h.others _ (by decide)] at hlines
  refine ⟨{ name, key := Key.ofName name, fields := fields', documentation := lines }, ?_,
    ⟨rfl, rfl, rfl, hp⟩⟩
  rw [Table.ofJson, Outcome.bind_eq_ok_iff]
  refine ⟨rawName, hraw, Outcome.bind_eq_ok_iff.mpr ⟨name, hname, ?_⟩⟩
  refine Outcome.bind_eq_ok_iff.mpr ⟨xs', hx', Outcome.bind_eq_ok_iff.mpr ⟨fields', hfields', ?_⟩⟩
  exact Outcome.bind_eq_ok_iff.mpr ⟨rawLines, hlines, Outcome.bind_eq_ok_iff.mpr ⟨lines, hdoc, rfl⟩⟩

theorem Schema.ofJson_rearranged {datamodel datamodel' : Json} (h : datamodel.Rearranged datamodel')
    {s : Schema} (hs : Schema.ofJson datamodel = .ok s) :
    ∃ s', Schema.ofJson datamodel' = .ok s' ∧ s.Shuffled s' := by
  obtain ⟨models, moved, models', hm, hmperm, hshuffled, hm'⟩ := h.models
  obtain ⟨enums, enums', he, he', heperm⟩ := h.enums
  obtain ⟨types, types', hty, hty', htyperm⟩ := h.types
  obtain ⟨xs, ys, zs, hx, htables, hy, henums, hz, hcomposites⟩ := Schema.ofJson_eq_ok hs
  cases hm.symm.trans hx
  cases he.symm.trans hy
  cases hty.symm.trans hz
  obtain ⟨tables, ht, htperm⟩ := Outcome.mapM_perm hmperm htables
  obtain ⟨tables', ht', hts⟩ := Outcome.mapM_forall₂ hshuffled
    (fun _ _ _ h => Table.ofJson_shuffled h) ht
  obtain ⟨es, hes, hep⟩ := Outcome.mapM_perm heperm henums
  obtain ⟨cs, hcs, hcp⟩ := Outcome.mapM_perm htyperm hcomposites.1
  refine ⟨⟨_, _, tables', es, cs⟩, ?_, ⟨hcomposites.2.1.symm, hcomposites.2.2.symm,
    ⟨tables, htperm, hts⟩, hep, hcp⟩⟩
  rw [Schema.ofJson, Outcome.bind_eq_ok_iff]
  refine ⟨models', hm', Outcome.bind_eq_ok_iff.mpr ⟨tables', ht', ?_⟩⟩
  refine Outcome.bind_eq_ok_iff.mpr ⟨enums', he', Outcome.bind_eq_ok_iff.mpr ⟨es, hes, ?_⟩⟩
  exact Outcome.bind_eq_ok_iff.mpr ⟨types', hty', Outcome.bind_eq_ok_iff.mpr ⟨cs, hcs, rfl⟩⟩

/-! ## labels -/

/-- different ASCII names -/
structure Text.Labels (names : List Text) : Prop where
  nodup : names.Nodup
  ascii : ∀ n ∈ names, n.IsAscii

/-- the names of the tables, the enums and the composite types are labels, and so are those of the
fields of each table -/
structure Schema.Labelled (s : Schema) : Prop where
  tables : Text.Labels (s.tables.map Table.name)
  enums : Text.Labels (s.enums.map Enum.name)
  composites : Text.Labels (s.composites.map Composite.name)
  fields : ∀ t ∈ s.tables, ∃ names, t.fields.map Field.name = names.map Json.text ∧ Text.Labels names

/-- the key of an ASCII name is ASCII -/
theorem Key.isAscii_ofName {name : Text} (h : name.IsAscii) : (Key.ofName name).IsAscii := by
  intro c hc
  have hdrawn := Key.drawn_ofName (P := fun _ => False) (drawn_of_isAscii h)
  exact (hdrawn c hc).resolve_right id

theorem Key.ofName_inj {m n : Text} (h : Key.ofName m = Key.ofName n) : m = n := by
  have hs : Key.ofName m ++ [':'] = Key.ofName n ++ [':'] := by rw [h]
  exact (settles_key trivial trivial rfl rfl hs).1

section
variable {α : Type} {name key : α → Text} {xs : List α} (h : Text.Labels (xs.map name))
  (hkey : ∀ x ∈ xs, key x = Key.ofName (name x))
include h hkey

/-- items with labels as names have different sort keys -/
theorem eq_of_sortKey_eq {x y : α} (hx : x ∈ xs) (hy : y ∈ xs)
    (e : SortKey.ofText (key x) = SortKey.ofText (key y)) : x = y := by
  rw [hkey x hx, hkey y hy] at e
  have hname : ∀ z ∈ xs, (name z).IsAscii := fun z hz => h.ascii _ (List.mem_map_of_mem hz)
  have he := SortKey.ofText_inj (Key.isAscii_ofName (hname x hx)) (Key.isAscii_ofName (hname y hy)) e
  exact List.inj_on_of_nodup_map h.nodup hx hy (Key.ofName_inj he)

/-- some of the items with labels as names are sorted alike in whatever order they come -/
theorem byText_perm_eq {ys zs : List α} (hsub : ys ⊆ xs) (hp : ys.Perm zs) :
    Order.byText key ys = Order.byText key zs :=
  (Order.byText_perm_iff.mpr (fun _ hx _ hy => eq_of_sortKey_eq h hkey (hsub hx) (hsub hy)) zs hp).symm

end

/-! ## tables -/

section
variable {t t' : Table} (h : t.Shuffled t')
  (hl : ∃ names, t.fields.map Field.name = names.map Json.text ∧ Text.Labels names)
include hl

/-- fields with labels as names have different sort keys -/
theorem Table.eq_of_sortKey {f g : Field} (hf : f ∈ t.fields) (hg : g ∈ t.fields) {k : SortKey}
    (hfk : f.name.sortKey = .ok k) (hgk : g.name.sortKey = .ok k) : f = g := by
  obtain ⟨names, hnames, hlabels⟩ := hl
  have hname : ∀ f ∈ t.fields, ∃ n ∈ names, f.name = .text n := by
    intro f hf
    have hm : f.name ∈ names.map Json.text := hnames ▸ List.mem_map_of_mem hf
    obtain ⟨n, hn, e⟩ := List.mem_map.mp hm
    exact ⟨n, hn, e.symm⟩
  have hnodup : (t.fields.map Field.name).Nodup := by
    rw [hnames]
    exact hlabels.nodup.map fun _ _ e => Json.text.inj e
  obtain ⟨m, hm, hfm⟩ := hname f hf
  obtain ⟨n, hn, hgn⟩ := hname g hg
  refine List.inj_on_of_nodup_map hnodup hf hg ?_
  rw [hfm] at hfk
  rw [hgn] at hgk
  have e : SortKey.ofText m = SortKey.ofText n := by
    cases hfk
    exact (Except.ok.inj hgk).symm
  rw [hfm, hgn, SortKey.ofText_inj (hlabels.ascii m hm) (hlabels.ascii n hn) e]

include h

theorem Table.columns_shuffled {columns : List Field}
    (hc : Order.byName Field.name t.columns = .ok columns) :
    Order.byName Field.name t'.columns = .ok columns := by
  have hp : t.columns.Perm t'.columns := h.fields.filter _
  refine (Order.byName_perm_iff hc).mpr (fun f hf g hg e => ?_) _ hp
  obtain ⟨k, hk⟩ := (Order.byName_eq_ok_iff.mp hc).keyed f hf
  exact Table.eq_of_sortKey hl (List.mem_of_mem_filter hf) (List.mem_of_mem_filter hg) hk (e ▸ hk)

theorem Table.relationships_shuffled {rs : List Relationship} (hr : t.relationships = .ok rs) :
    t'.relationships = .ok rs := by
  have hfield : ∀ {f : Field} {k : ForeignKey}, f.foreignKey? = some k → k.field = f := by
    intro f k e
    unfold Field.foreignKey? at e
    split at e
    · split at e <;> cases e
      rfl
    · cases e
  obtain ⟨keys, hkeys, hr⟩ := Outcome.map_eq_ok_iff.mp hr
  have harranged := Table.foreignKeys_eq_ok_iff.mp hkeys
  -- two foreign keys with the same sort key belong to fields with the same name
  have hkey : ∀ k ∈ t.fields.filterMap Field.foreignKey?, ∀ l ∈ t.fields.filterMap Field.foreignKey?,
      k.sortKey = l.sortKey → k = l := by
    intro k hk l hl' hkl
    obtain ⟨x, hkx⟩ := harranged.keyed k hk
    have hlx := hkl ▸ hkx
    obtain ⟨f, hf, hfk⟩ := List.mem_filterMap.mp hk
    obtain ⟨g, hg, hgl⟩ := List.mem_filterMap.mp hl'
    obtain ⟨y, hy, hkx⟩ := Outcome.bind_eq_ok_iff.mp hkx
    obtain ⟨_, _, hkx⟩ := Outcome.bind_eq_ok_iff.mp hkx
    obtain ⟨z, hz, hlx⟩ := Outcome.bind_eq_ok_iff.mp hlx
    obtain ⟨_, _, hlx⟩ := Outcome.bind_eq_ok_iff.mp hlx
    cases hkx
    cases hlx
    rw [hfield hfk] at hy
    rw [hfield hgl] at hz
    rw [Table.eq_of_sortKey hl hf hg hy hz, hgl] at hfk
    exact (Option.some.inj hfk).symm
  have hkeys' := harranged.perm_iff.mpr hkey _ (h.fields.filterMap Field.foreignKey?)
  exact Outcome.map_eq_ok_iff.mpr ⟨keys, Table.foreignKeys_eq_ok_iff.mpr hkeys', hr⟩

theorem Table.outline_shuffled {o : Outline.Table} (ho : t.outline = .ok o) :
    t'.outline = .ok o := by
  obtain ⟨hname, hkey, hdoc, hcolumns, hrelationships⟩ := Table.outline_eq_ok ho
  refine Outcome.bind_eq_ok_iff.mpr ⟨_, Table.relationships_shuffled h hl hrelationships, ?_⟩
  refine Outcome.bind_eq_ok_iff.mpr ⟨_, Table.columns_shuffled h hl hcolumns, ?_⟩
  rw [h.name, h.key, h.documentation, ← hname, ← hkey, ← hdoc]
  rfl

end

/-! ## outputs -/

/-- a shuffled schema has the same outline -/
theorem Schema.outline_shuffled {s s' : Schema} (h : s.Shuffled s') (hl : s.Labelled) (hk : s.Keyed)
    {o : Outline} (ho : s.outline = .ok o) : s'.outline = .ok o := by
  obtain ⟨ts, hperm, hts⟩ := h.tables
  obtain ⟨hname, hkey, htables, henums, hcomposites⟩ := Schema.outline_eq_ok ho
  have hsort : s.orderedTables = Order.byText Table.key ts :=
    byText_perm_eq hl.tables hk.tables (List.Subset.refl _) hperm
  have hlabels : ∀ t ∈ ts, ∃ names, t.fields.map Field.name = names.map Json.text
      ∧ Text.Labels names := fun t ht => hl.fields t (hperm.mem_iff.mpr ht)
  have hsorted : List.Forall₂ _ (Order.byText Table.key ts) s'.orderedTables :=
    Order.forall₂_sorted (fun t : Table => SortKey.ofText t.key)
      ((List.forall₂_and_left _ _).mpr ⟨hlabels, hts⟩)
      fun t u hu => congrArg SortKey.ofText hu.2.key.symm
  rw [hsort] at htables
  obtain ⟨tables, ht, heq⟩ := Outcome.mapM_forall₂ (S := Eq) hsorted
    (fun t u o hu ho => ⟨o, Table.outline_shuffled hu.2 hu.1 ho, rfl⟩) htables
  rw [List.forall₂_eq_eq_eq] at heq
  have he : s.orderedEnums = s'.orderedEnums :=
    byText_perm_eq hl.enums hk.enums (List.filter_subset_self _) (h.enums.filter _)
  have hc : s.orderedComposites = s'.orderedComposites :=
    byText_perm_eq hl.composites hk.composites (List.filter_subset_self _) (h.composites.filter _)
  refine Outcome.bind_eq_ok_iff.mpr ⟨tables, ht, ?_⟩
  rw [h.name, h.key, ← hname, ← hkey, ← heq, ← he, ← hc, ← henums, ← hcomposites]
  rfl

/-- **The order of declarations does not show in the output.** -/
theorem generateTypes_rearranged {datamodel datamodel' : Json} {documentation : Bool} {t : Text}
    {s : Schema} (h : generateTypes datamodel documentation = .ok t)
    (hs : Schema.ofJson datamodel = .ok s) (hl : s.Labelled)
    (hr : datamodel.Rearranged datamodel') : generateTypes datamodel' documentation = .ok t := by
  obtain ⟨r, o, hr', ho, e⟩ := generateTypes_eq_ok_iff.mp h
  cases hs.symm.trans hr'
  obtain ⟨s', hs', hshuffled⟩ := Schema.ofJson_rearranged hr hs
  exact generateTypes_eq_ok_iff.mpr
    ⟨s', o, hs', Schema.outline_shuffled hshuffled hl (Schema.keyed_ofJson hs) ho, e⟩

/-- a table with two columns, in an order that can be given -/
def Json.pairTable (arrange : List Json → List Json) (name : Json) : Json :=
  .object [("name", name), ("fields", .list (arrange
    [.object [("name", "id"), ("kind", "scalar"), ("type", "Int")],
     .object [("name", "Id"), ("kind", "enum"), ("type", "e")]]))]

/-- a model with two declarations of each kind, in an order that can be given -/
def Json.pairModel (arrange : List Json → List Json) : Json :=
  .object
    [("models", .list (arrange [.pairTable arrange "t", .pairTable arrange "T\""])),
     ("enums", .list (arrange
      [.object [("name", "e"), ("values", .list [.object [("name", "v")]])],
       .object [("name", "E"), ("values", .list [.object [("name", "v")]])]])),
     ("types", .list (arrange [.object [("name", "c")], .object [("name", "d")]]))]

theorem shuffledAt_pairTable (name : Json) :
    (Json.pairTable id name).ShuffledAt "fields" (Json.pairTable List.reverse name) where
  elements := ⟨_, _, rfl, rfl, List.Perm.swap _ _ _⟩
  others _ hk := congrArg Except.ok
    (Members.lookup_put_of_ne hk _ [("name".toList, name), ("fields".toList, _)]).symm

theorem rearranged_pairModel : (Json.pairModel id).Rearranged (Json.pairModel List.reverse) where
  models := ⟨_, _, _, rfl, List.Perm.swap _ _ _,
    .cons (shuffledAt_pairTable _) (.cons (shuffledAt_pairTable _) .nil), rfl⟩
  enums := ⟨_, _, rfl, rfl, List.Perm.swap _ _ _⟩
  types := ⟨_, _, rfl, rfl, List.Perm.swap _ _ _⟩

theorem generateTypes_rearranged_pairModel : ∃ t, generateTypes (.pairModel id) true = .ok t
    ∧ generateTypes (.pairModel List.reverse) true = .ok t := by
  have h : ∃ t, generateTypes (.pairModel id) true = .ok t := ⟨_, rfl⟩
  have hs : ∃ s, Schema.ofJson (.pairModel id) = .ok s ∧ s.Labelled := by
    refine ⟨_, rfl, ⟨⟨by decide, by decide⟩, ⟨by decide, by decide⟩, ⟨by decide, by decide⟩, ?_⟩⟩
    have hnames : Text.Labels ["id", "Id"] := ⟨by decide, by decide⟩
    intro t ht
    rcases List.mem_cons.mp ht with rfl | ht
    · exact ⟨["id", "Id"], rfl, hnames⟩
    · rw [List.mem_singleton.mp ht]
      exact ⟨["id", "Id"], rfl, hnames⟩
  obtain ⟨t, h⟩ := h
  obtain ⟨s, hs, hl⟩ := hs
  exact ⟨t, h, generateTypes_rearranged h hs hl rearranged_pairModel⟩

end DatabaseTypes
