import DatabaseTypes.Proofs.Sections
import DatabaseTypes.Proofs.Shuffled

/-!
# A model without one of its declarations

The entries of the output do not depend on each other: a declaration that is left out takes its own entry with it, if
it has one, and nothing else.

* `Misses`                a list without one item of another one
* `Order.misses_sorted`   such lists are sorted to such lists
* `Division`              a section that has entries, and the list of a model that declares them
* `Division.entry`        the entry of a declaration
* `Json.entries`          the entries of the output for a model
* `Json.Without`          a model without one of its declarations
* `entries_independent`   the output for it
-/

namespace DatabaseTypes

/-! ## lists without an item -/

section
variable {α β ε : Type} {x : Option α} {xs ys : List α}

/-- `ys` are the items `xs` without `x`, if that is one of them at all -/
def Misses (x : Option α) (xs ys : List α) : Prop :=
  ∃ before after, xs = before ++ x.toList ++ after ∧ ys = before ++ after

theorem misses_cons_self (x : α) (xs : List α) : Misses (some x) (x :: xs) xs := ⟨[], xs, rfl, rfl⟩

theorem Misses.cons (h : Misses x xs ys) (z : α) : Misses x (z :: xs) (z :: ys) := by
  obtain ⟨before, after, rfl, rfl⟩ := h
  exact ⟨z :: before, after, rfl, rfl⟩

theorem Misses.map (h : Misses x xs ys) (f : α → β) : Misses (x.map f) (xs.map f) (ys.map f) := by
  obtain ⟨before, after, rfl, rfl⟩ := h
  refine ⟨before.map f, after.map f, ?_, List.map_append⟩
  rw [List.map_append, List.map_append, Option.toList_map]

theorem Misses.filter (h : Misses x xs ys) (p : α → Bool) :
    Misses (x.filter p) (xs.filter p) (ys.filter p) := by
  obtain ⟨before, after, rfl, rfl⟩ := h
  refine ⟨before.filter p, after.filter p, ?_, List.filter_append _ _⟩
  rw [List.filter_append, List.filter_append, Option.toList_filter]

/-- a step that ends well for all items does so for all but one -/
theorem Misses.mapM {f : α → Except ε β} {x : α} {us : List β} (h : Misses (some x) xs ys)
    (hu : xs.mapM f = .ok us) : ∃ u vs, f x = .ok u ∧ ys.mapM f = .ok vs ∧ Misses (some u) us vs := by
  obtain ⟨before, after, rfl, rfl⟩ := h
  induction before generalizing us with
  | nil =>
    obtain ⟨u, vs, hx, hvs, rfl⟩ := Outcome.mapM_cons_eq_ok_iff.mp hu
    exact ⟨u, vs, hx, hvs, misses_cons_self u vs⟩
  | cons y before ih =>
    obtain ⟨v, ws, hy, hws, rfl⟩ := Outcome.mapM_cons_eq_ok_iff.mp hu
    obtain ⟨u, vs, hx, hvs, hmisses⟩ := ih hws
    exact ⟨u, v :: vs, hx, Outcome.mapM_cons_eq_ok_iff.mpr ⟨v, vs, hy, hvs, rfl⟩, hmisses.cons v⟩

/-- nothing is left exactly if there was nothing else -/
theorem Misses.eq_nil_iff (h : Misses x xs ys) : ys = [] ↔ xs = x.toList := by
  obtain ⟨before, after, rfl, rfl⟩ := h
  constructor
  · intro hnil
    obtain ⟨rfl, rfl⟩ := List.append_eq_nil_iff.mp hnil
    simp
  · intro hall
    have hlength := congrArg List.length hall
    simp only [List.length_append] at hlength
    exact List.eq_nil_of_length_eq_zero (by rw [List.length_append]; omega)

end

/-! ## sorting -/

namespace Order

variable {α κ : Type} {le : κ → κ → Bool} {key : α → κ} {x : Option α} {xs ys : List α}

theorem misses_place_self (le : α → α → Bool) (x : α) (xs : List α) : Misses (some x) (place le x xs) xs := by
  induction xs with
  | nil => exact misses_cons_self x []
  | cons y xs ih =>
    rw [place]
    split
    · exact misses_cons_self x (y :: xs)
    · exact ih.cons y

/-- what comes in front of an item comes in front of what follows it -/
theorem place_of_atMost (hle : Linear le) {x y : α} (h : le (key y) (key x) = true)
    (hsorted : (x :: xs).Pairwise fun x y => le (key x) (key y) = true) :
    place (fun x y => le (key x) (key y)) y xs = y :: xs := by
  cases xs with
  | nil => rfl
  | cons z xs =>
    have hxz := (List.pairwise_cons.mp hsorted).1 z List.mem_cons_self
    rw [place, if_pos (hle.trans h hxz)]

theorem misses_place (hle : Linear le) (h : Misses x xs ys)
    (hsorted : xs.Pairwise fun x y => le (key x) (key y) = true) (y : α) :
    Misses x (place (fun x y => le (key x) (key y)) y xs) (place (fun x y => le (key x) (key y)) y ys) := by
  obtain ⟨before, after, rfl, rfl⟩ := h
  induction before with
  | nil =>
    cases x with
    | none => exact ⟨[], _, rfl, rfl⟩
    | some x =>
      have hsorted : (x :: after).Pairwise fun x y => le (key x) (key y) = true := hsorted
      show Misses (some x) (place _ y (x :: after)) (place _ y after)
      rw [place]
      split
      · rename_i hyx
        rw [place_of_atMost hle hyx hsorted]
        exact (misses_cons_self x after).cons y
      · exact misses_cons_self x _
  | cons z before ih =>
    rw [List.cons_append, List.cons_append] at hsorted
    show Misses x (place _ y (z :: (before ++ x.toList ++ after))) (place _ y (z :: (before ++ after)))
    rw [place, place]
    split
    · exact ⟨y :: z :: before, after, rfl, rfl⟩
    · exact (ih (List.pairwise_cons.mp hsorted).2).cons z

/-- without an item the others are sorted as they are with it -/
theorem misses_sorted (hle : Linear le) (key : α → κ) (h : Misses x xs ys) :
    Misses x (sorted (fun x y => le (key x) (key y)) xs) (sorted (fun x y => le (key x) (key y)) ys) := by
  obtain ⟨before, after, rfl, rfl⟩ := h
  induction before with
  | nil =>
    cases x with
    | none => exact ⟨[], _, rfl, rfl⟩
    | some x => exact misses_place_self _ x _
  | cons z before ih => exact misses_place hle ih (pairwise_sorted hle key _) z

theorem misses_byText (h : Misses x xs ys) (text : α → Text) : Misses x (byText text xs) (byText text ys) :=
  misses_sorted SortKey.linear_atMost (fun x => SortKey.ofText (text x)) h

end Order

/-! ## outlines -/

namespace Schema

variable {s : Schema} {o : Outline}

theorem outline_eq_ok_of (h : s.outline = .ok o) :
    o = ⟨s.name, s.key, o.tables, s.orderedEnums, s.orderedComposites⟩ := by
  obtain ⟨hname, hkey, _, henums, hcomposites⟩ := outline_eq_ok h
  rw [← hname, ← hkey, ← henums, ← hcomposites]

theorem outline_without_table {t : Table} {ts : List Table} (ho : s.outline = .ok o) (h : Misses (some t) s.tables ts) :
    ∃ u us, t.outline = .ok u ∧ ({ s with tables := ts } : Schema).outline = .ok { o with tables := us }
      ∧ Misses (some u) o.tables us := by
  obtain ⟨u, us, hu, hus, hmisses⟩ := (Order.misses_byText h Table.key).mapM (outline_eq_ok ho).2.2.1
  refine ⟨u, us, hu, Outcome.bind_eq_ok_iff.mpr ⟨us, hus, ?_⟩, hmisses⟩
  rw [outline_eq_ok_of ho]
  rfl

theorem outline_without_enum {x : Enum} {xs : List Enum} (ho : s.outline = .ok o) (h : Misses (some x) s.enums xs) :
    ∃ ys, ({ s with enums := xs } : Schema).outline = .ok { o with enums := ys }
      ∧ Misses ((some x).filter fun x => !x.variants.isEmpty) o.enums ys := by
  refine ⟨Order.byText Enum.key (xs.filter fun e => !e.variants.isEmpty),
    Outcome.bind_eq_ok_iff.mpr ⟨o.tables, (outline_eq_ok ho).2.2.1, ?_⟩, ?_⟩
  · rw [outline_eq_ok_of ho]
    rfl
  · rw [(outline_eq_ok ho).2.2.2.1]
    exact Order.misses_byText (h.filter _) Enum.key

theorem outline_without_composite {x : Composite} {xs : List Composite} (ho : s.outline = .ok o)
    (h : Misses (some x) s.composites xs) :
    ∃ ys, ({ s with composites := xs } : Schema).outline = .ok { o with composites := ys }
      ∧ Misses ((some x).filter fun x => !x.members.isEmpty) o.composites ys := by
  refine ⟨Order.byText Composite.key (xs.filter fun c => !c.members.isEmpty),
    Outcome.bind_eq_ok_iff.mpr ⟨o.tables, (outline_eq_ok ho).2.2.1, ?_⟩, ?_⟩
  · rw [outline_eq_ok_of ho]
    rfl
  · rw [(outline_eq_ok ho).2.2.2.2]
    exact Order.misses_byText (h.filter _) Composite.key

end Schema

/-! ## entries -/

/-- the sections that have entries -/
inductive Division where
  | tables
  | enums
  | composites

namespace Division

/-- the list of a model that declares the entries -/
def key : Division → Text
  | .tables => "models"
  | .enums => "enums"
  | .composites => "types"

def title : Division → Text
  | .tables => "Tables"
  | .enums => "Enums"
  | .composites => "CompositeTypes"

/-- what stands between two entries -/
def separator : Division → Text
  | .tables => ";\n"
  | .enums => "\n"
  | .composites => ",\n\n"

/-- what stands in the section, by the texts of its entries -/
def body (d : Division) (entries : List Text) : Layout := Emission.entries d.separator (entries.map .verbatim)

/-- the section, by the texts of its entries -/
def layout (d : Division) (entries : List Text) : Layout :=
  Emission.braced Emission.sectionIndent d.title (d.body entries)

/-- the output for a model, by the texts of its entries -/
def page (entries : Division → List Text) : Layout :=
  Emission.frame [Emission.braced Emission.schemaIndent (Key.ofName Schema.defaultName) (.stacked
    [tables.layout (entries .tables), Emission.placeholder "Views" "/* No support for views */",
     Emission.placeholder "Functions" "/* No support for functions */", enums.layout (entries .enums),
     composites.layout (entries .composites)])]

/-- what decides the types of the fields of a model -/
def classifier (e : Emission) : Classifier := { scalars := e.scalars, schemaName := Schema.defaultName }

/-- the text of the entry of a declaration; an enum without variants and a composite type without members have none -/
def entry (e : Emission) : Division → Json → Except Fault (Option Text)
  | .tables, v => do pure (some (← e.table (classifier e) (← Table.ofJson v)).text)
  | .enums, v => do
    let x ← Enum.ofJson v
    pure (if x.variants.isEmpty then none else some (e.enum x).text)
  | .composites, v => do
    let x ← Composite.ofJson v
    pure (if x.members.isEmpty then none else some (e.composite (classifier e) x).text)

end Division

/-- the texts of the entries of an outline -/
def Emission.entryTexts (e : Emission) (o : Outline) : Division → List Text
  | .tables => (e.tableSection o).nodes.map Layout.text
  | .enums => (e.enumSection o).nodes.map Layout.text
  | .composites => (e.compositeSection o).nodes.map Layout.text

/-- the texts of the entries of the output for a model, in their order -/
def Json.entries (datamodel : Json) (documentation : Bool) : Except Fault (Division → List Text) := do
  let s ← Schema.ofJson datamodel
  s.outline.map (Emission.entryTexts { documentation })

namespace Emission

theorem text_entries (separator : Text) (nodes : List Layout) :
    (entries separator nodes).text = (entries separator ((nodes.map Layout.text).map .verbatim)).text := by
  cases nodes with
  | nil => rfl
  | cons node nodes =>
    show (Layout.joined (node :: nodes) separator).text
      = (Layout.joined (((node :: nodes).map Layout.text).map .verbatim) separator).text
    rw [Layout.text, Layout.text, Layout.texts_eq_map, Layout.texts_eq_map, List.map_map, List.map_map]
    rfl

theorem text_braced_congr {indent title : Text} {body body' : Layout} (h : body.text = body'.text) :
    (braced indent title body).text = (braced indent title body').text := by
  rw [braced, braced, Layout.text, Layout.text, h]

/-- the output is written from the texts of its entries -/
theorem text_page_eq (e : Emission) {o : Outline} (h : o.Keyed) :
    (e.page o).text = (Division.page (e.entryTexts o)).text := by
  have hsection (x : Section) (d : Division) (ht : d.title = x.title) (hs : d.separator = x.separator) :
      x.layout.text = (d.layout (x.nodes.map Layout.text)).text := by
    rw [Section.layout, Division.layout, ht, Division.body, hs]
    exact text_braced_congr (text_entries x.separator x.nodes)
  rw [page_eq, Division.page, text_frame, text_frame, h.key]
  refine congrArg (fun t => _ ++ ('\x7b' :: (['\n'] ++ t ++ ['\n']) ++ ['\x7d']) ++ _ ++ _ ++ _) (text_braced_congr ?_)
  simp only [Layout.stacked, Layout.text, Layout.texts]
  rw [hsection (e.tableSection o) .tables rfl rfl, hsection (e.enumSection o) .enums rfl rfl,
    hsection (e.compositeSection o) .composites rfl rfl]
  rfl

/-- the openings of the entries tell a section without entries from all others -/
theorem text_body_eq_iff (e : Emission) {o : Outline} (h : o.Keyed) (d : Division) :
    (d.body (e.entryTexts o d)).text = entryIndent ++ emptySection ↔ e.entryTexts o d = [] := by
  have hsection {x : Section} (hall : ∀ n ∈ x.nodes, Opening n) :
      (entries x.separator ((x.nodes.map Layout.text).map .verbatim)).text = entryIndent ++ emptySection
        ↔ x.nodes.map Layout.text = [] := by
    rw [← text_entries, text_entries_eq_iff hall, List.map_eq_nil_iff]
  cases d with
  | tables =>
    refine hsection (x := e.tableSection o) fun n hn => ?_
    obtain ⟨t, ht, rfl⟩ := List.mem_map.mp hn
    exact e.opening_sheet _ (h.tables t ht)
  | enums =>
    refine hsection (x := e.enumSection o) fun n hn => ?_
    obtain ⟨x, hx, rfl⟩ := List.mem_map.mp hn
    exact e.opening_enum (h.enums x hx)
  | composites =>
    refine hsection (x := e.compositeSection o) fun n hn => ?_
    obtain ⟨x, hx, rfl⟩ := List.mem_map.mp hn
    exact e.opening_composite _ (h.composites x hx)

/-- the output for schemas is written from what is written for each of them alone -/
theorem text_eq_map_frame (e : Emission) (schemas : List Schema) :
    e.text schemas = ((Schema.ordered schemas).mapM fun s => (e.schema s).map Layout.text).map fun blocks =>
      (frame (blocks.map .verbatim)).text := by
  rw [text, file, Outcome.mapM_map]
  cases (Schema.ordered schemas).mapM e.schema with
  | error f => rfl
  | ok nodes =>
    show Except.ok (frame nodes).text = Except.ok (frame ((nodes.map Layout.text).map .verbatim)).text
    have h : (Layout.stacked nodes).text = (Layout.stacked ((nodes.map Layout.text).map .verbatim)).text := by
      simp only [Layout.stacked, Layout.text, Layout.texts_eq_map, List.map_map]
      rfl
    simp only [frame, Layout.stacked, Layout.text, Layout.texts] at h ⊢
    rw [h]

end Emission

/-! ## models -/

/-- a model and what is left of it without one of the items in one of its lists -/
structure Json.Without (key : Text) (x : Json) (v v' : Json) : Prop where
  elements : ∃ xs xs', v.elementsAt key = .ok xs ∧ v'.elementsAt key = .ok xs' ∧ Misses (some x) xs xs'
  others : ∀ k, k ≠ key → v.lookup k = v'.lookup k

/-- the items of the other lists are the same -/
theorem Json.Without.elementsAt {key k : Text} {x v v' : Json} (h : Json.Without key x v v') (hk : k ≠ key) :
    v'.elementsAt k = v.elementsAt k := by
  rw [Json.elementsAt, Json.elementsAt, h.others k hk]

/-- a step that ends well for the items of the list does so without one of them -/
theorem Json.Without.mapM {α : Type} {read : Json → Except Fault α} {key : Text} {x v v' : Json} {xs : List Json}
    {us : List α} (h : Json.Without key x v v') (hxs : v.elementsAt key = .ok xs) (hus : xs.mapM read = .ok us) :
    ∃ u xs' us', read x = .ok u ∧ v'.elementsAt key = .ok xs' ∧ xs'.mapM read = .ok us'
      ∧ Misses (some u) us us' := by
  obtain ⟨ys, xs', hys, hxs', hmisses⟩ := h.elements
  obtain rfl : xs = ys := Except.ok.inj (hxs.symm.trans hys)
  obtain ⟨u, us', hu, hus', hmisses⟩ := hmisses.mapM hus
  exact ⟨u, xs', us', hu, hxs', hus', hmisses⟩

/-- a schema that is read from the lists of a model -/
theorem Schema.ofJson_of_elementsAt {v : Json} {models enums types : List Json} {tables : List Table}
    {xs : List Enum} {cs : List Composite} (hm : v.elementsAt "models" = .ok models)
    (ht : models.mapM Table.ofJson = .ok tables) (he : v.elementsAt "enums" = .ok enums)
    (hx : enums.mapM Enum.ofJson = .ok xs) (hy : v.elementsAt "types" = .ok types)
    (hc : types.mapM Composite.ofJson = .ok cs) :
    Schema.ofJson v = .ok ⟨Schema.defaultName, Key.ofName Schema.defaultName, tables, xs, cs⟩ := by
  refine Outcome.bind_eq_ok_iff.mpr ⟨models, hm, Outcome.bind_eq_ok_iff.mpr ⟨tables, ht, ?_⟩⟩
  refine Outcome.bind_eq_ok_iff.mpr ⟨enums, he, Outcome.bind_eq_ok_iff.mpr ⟨xs, hx, ?_⟩⟩
  exact Outcome.bind_eq_ok_iff.mpr ⟨types, hy, Outcome.bind_eq_ok_iff.mpr ⟨cs, hc, rfl⟩⟩

/-! ## what is left of the output -/

/-- what a declaration adds to the entries of an outline, its own entry, and what is there without it -/
def Division.Adds (e : Emission) (d : Division) (x : Json) (o : Outline) (v' : Json) : Prop :=
  ∃ s' o' block, Schema.ofJson v' = .ok s' ∧ s'.outline = .ok o' ∧ d.entry e x = .ok block
    ∧ Misses block (e.entryTexts o d) (e.entryTexts o' d)
    ∧ ∀ d', d' ≠ d → e.entryTexts o' d' = e.entryTexts o d'

theorem ite_eq_map_filter {α β : Type} (p : α → Bool) (f : α → β) (x : α) :
    (if p x then none else some (f x)) = ((some x).filter fun x => !p x).map f := by
  cases h : p x <;> simp [Option.filter, h]

section
variable {e : Emission} {x v v' : Json} {s : Schema} {o : Outline} (hs : Schema.ofJson v = .ok s)
  (ho : s.outline = .ok o)
include hs ho

theorem classifierOf_eq : e.classifierOf o = Division.classifier e := by
  rw [Emission.classifierOf, Division.classifier, (Schema.outline_eq_ok ho).1, (Schema.keyed_ofJson hs).name]

theorem adds_table (h : Json.Without "models" x v v') : Division.tables.Adds e x o v' := by
  obtain ⟨models, enums, types, hm, ht, he, hx, hy, hc, hname, hkey⟩ := Schema.ofJson_eq_ok hs
  obtain ⟨t, models', ts, htable, hm', ht', hmisses⟩ := h.mapM hm ht
  obtain ⟨u, us, hu, hus, hleft⟩ := Schema.outline_without_table ho hmisses
  have hs' : Schema.ofJson v' = .ok { s with tables := ts } := by
    rw [Schema.ofJson_of_elementsAt hm' ht' ((h.elementsAt (by decide)).trans he) hx
      ((h.elementsAt (by decide)).trans hy) hc, hname, hkey]
  refine ⟨_, _, some (e.sheet (e.classifierOf o) u).text, hs', hus, ?_, ?_, ?_⟩
  · refine Outcome.bind_eq_ok_iff.mpr ⟨t, htable, Outcome.bind_eq_ok_iff.mpr ⟨_, ?_, rfl⟩⟩
    rw [Emission.table_eq_map, hu, classifierOf_eq hs ho]
    rfl
  · exact (hleft.map (e.sheet (e.classifierOf o))).map Layout.text
  · intro d hd
    cases d with
    | tables => exact absurd rfl hd
    | enums => rfl
    | composites => rfl

theorem adds_enum (h : Json.Without "enums" x v v') : Division.enums.Adds e x o v' := by
  obtain ⟨models, enums, types, hm, ht, he, hx, hy, hc, hname, hkey⟩ := Schema.ofJson_eq_ok hs
  obtain ⟨y, enums', ys, henum, he', hx', hmisses⟩ := h.mapM he hx
  obtain ⟨zs, hzs, hleft⟩ := Schema.outline_without_enum ho hmisses
  have hs' : Schema.ofJson v' = .ok { s with enums := ys } := by
    rw [Schema.ofJson_of_elementsAt ((h.elementsAt (by decide)).trans hm) ht he' hx'
      ((h.elementsAt (by decide)).trans hy) hc, hname, hkey]
  have hleft := (hleft.map e.enum).map Layout.text
  rw [Option.map_map] at hleft
  refine ⟨_, _, _, hs', hzs, Outcome.bind_eq_ok_iff.mpr ⟨y, henum, ?_⟩, hleft, ?_⟩
  · exact congrArg Except.ok (ite_eq_map_filter (fun x : Enum => x.variants.isEmpty) (Layout.text ∘ e.enum) y)
  · intro d hd
    cases d with
    | tables => rfl
    | enums => exact absurd rfl hd
    | composites => rfl

theorem adds_composite (h : Json.Without "types" x v v') : Division.composites.Adds e x o v' := by
  obtain ⟨models, enums, types, hm, ht, he, hx, hy, hc, hname, hkey⟩ := Schema.ofJson_eq_ok hs
  obtain ⟨y, types', ys, hcomposite, hy', hc', hmisses⟩ := h.mapM hy hc
  obtain ⟨zs, hzs, hleft⟩ := Schema.outline_without_composite ho hmisses
  have hs' : Schema.ofJson v' = .ok { s with composites := ys } := by
    rw [Schema.ofJson_of_elementsAt ((h.elementsAt (by decide)).trans hm) ht
      ((h.elementsAt (by decide)).trans he) hx hy' hc', hname, hkey]
  have hleft := (hleft.map (e.composite (e.classifierOf o))).map Layout.text
  rw [Option.map_map] at hleft
  refine ⟨_, _, _, hs', hzs, Outcome.bind_eq_ok_iff.mpr ⟨y, hcomposite, ?_⟩, hleft, ?_⟩
  · rw [classifierOf_eq hs ho]
    exact congrArg Except.ok (ite_eq_map_filter (fun x : Composite => x.members.isEmpty) (Layout.text ∘ _) y)
  · intro d hd
    cases d with
    | tables => rfl
    | enums => rfl
    | composites => exact absurd rfl hd

end

/-- **The entries are independent of each other.** A model without one of its declarations has an output, too,
and in it the entries of the section of that declaration are those that are there with it, in their order, without
its own one, which it determines alone, and the other sections are the same; the section has no entries exactly if
there was no other one. And what is written for several schemas is made of what is written for each of them alone. -/
theorem entries_independent :
    (∀ (d : Division) (x v v' : Json) (documentation : Bool) (t : Text), generateTypes v documentation = .ok t →
      Json.Without d.key x v v' → ∃ block blocks blocks',
        d.entry { documentation } x = .ok block ∧ v.entries documentation = .ok blocks
        ∧ v'.entries documentation = .ok blocks' ∧ t = (Division.page blocks).text
        ∧ generateTypes v' documentation = .ok (Division.page blocks').text
        ∧ Misses block (blocks d) (blocks' d) ∧ (∀ d', d' ≠ d → blocks' d' = blocks d')
        ∧ ((d.body (blocks' d)).text = Emission.entryIndent ++ Emission.emptySection ↔ blocks d = block.toList))
    ∧ ∀ (e : Emission) (schemas : List Schema),
      e.text schemas = ((Schema.ordered schemas).mapM fun s => (e.schema s).map Layout.text).map fun blocks =>
        (Emission.frame (blocks.map .verbatim)).text := by
  refine ⟨fun d x v v' documentation t h hx => ?_, Emission.text_eq_map_frame⟩
  obtain ⟨s, o, hs, ho, rfl⟩ := generateTypes_eq_ok_iff.mp h
  have hadds : d.Adds { documentation } x o v' := by
    cases d with
    | tables => exact adds_table hs ho hx
    | enums => exact adds_enum hs ho hx
    | composites => exact adds_composite hs ho hx
  obtain ⟨s', o', block, hs', ho', hblock, hmisses, hothers⟩ := hadds
  have hkeyed := (Schema.keyed_ofJson hs).outline ho
  have hkeyed' := (Schema.keyed_ofJson hs').outline ho'
  have hentries {v : Json} {s : Schema} {o : Outline} (hs : Schema.ofJson v = .ok s) (ho : s.outline = .ok o) :
      v.entries documentation = .ok (Emission.entryTexts { documentation } o) :=
    Outcome.bind_eq_ok_iff.mpr ⟨s, hs, Outcome.map_eq_ok_iff.mpr ⟨o, ho, rfl⟩⟩
  refine ⟨block, _, _, hblock, hentries hs ho, hentries hs' ho', Emission.text_page_eq _ hkeyed, ?_, hmisses,
    hothers, ?_⟩
  · exact generateTypes_eq_ok_iff.mpr ⟨s', o', hs', ho', Emission.text_page_eq _ hkeyed'⟩
  · exact (Emission.text_body_eq_iff _ hkeyed' d).trans hmisses.eq_nil_iff

/-- an enum with one variant -/
def Json.oneVariant (name : Json) : Json := .object [("name", name), ("values", .list [.object [("name", "v")]])]

/-- a model with two declarations of each kind, without the enum to which its tables refer -/
def Json.pairRest : Json :=
  .object
    [("models", .list [.pairTable id "t", .pairTable id "T\""]), ("enums", .list [.oneVariant "E"]),
     ("types", .list [.object [("name", "c")], .object [("name", "d")]])]

theorem entries_independent_pairModel :
    Json.Without Division.enums.key (.oneVariant "e") (.pairModel id) .pairRest
    ∧ ∃ t block blocks blocks', generateTypes (.pairModel id) true = .ok t
      ∧ Division.enums.entry {} (.oneVariant "e") = .ok block ∧ Json.entries (.pairModel id) true = .ok blocks
      ∧ Json.entries .pairRest true = .ok blocks' ∧ t = (Division.page blocks).text
      ∧ generateTypes .pairRest true = .ok (Division.page blocks').text
      ∧ Misses block (blocks .enums) (blocks' .enums) ∧ (∀ d, d ≠ .enums → blocks' d = blocks d)
      ∧ ((Division.enums.body (blocks' .enums)).text = Emission.entryIndent ++ Emission.emptySection
        ↔ blocks .enums = block.toList) := by
  have hothers (k : Text) (hk : k ≠ Division.enums.key) : (Json.pairModel id).lookup k = Json.pairRest.lookup k :=
    congrArg Except.ok (Members.lookup_put_of_ne hk (Json.list [.oneVariant "E"])
      [("models".toList, _), ("enums".toList, _), ("types".toList, _)]).symm
  have hwithout : Json.Without Division.enums.key (.oneVariant "e") (.pairModel id) .pairRest :=
    ⟨⟨_, _, rfl, rfl, misses_cons_self _ _⟩, hothers⟩
  obtain ⟨t, ht⟩ : ∃ t, generateTypes (.pairModel id) true = .ok t := ⟨_, rfl⟩
  obtain ⟨block, blocks, blocks', hall⟩ := entries_independent.1 .enums _ _ _ true t ht hwithout
  exact ⟨hwithout, t, block, blocks, blocks', ht, hall⟩

end DatabaseTypes
