import DatabaseTypes.Proofs.Commented.Page
import DatabaseTypes.Proofs.Determined.Page

/-!
# Sections

The block of a schema has a section each for tables, enums and composite types.  A section that has no entries
says so, and no other section looks like that: an entry begins with a comment or with a key.

* `Emission.Section`             a section and its entries
* `Emission.page_eq`             the sections of the output
* `Emission.Opening`             an entry that begins with no bracket
* `Emission.Section.Counts`      a number tells how many entries a section has, as its text does
-/

namespace DatabaseTypes.Emission

/-- a section with entries -/
structure Section where
  title : Text
  separator : Text
  nodes : List Layout

/-- what stands in a section -/
def Section.body (x : Section) : Layout := entries x.separator x.nodes

/-- a section as a piece of the output -/
def Section.layout (x : Section) : Layout := braced sectionIndent x.title x.body

def tableSection (e : Emission) (o : Outline) : Section :=
  ⟨"Tables", ";\n", o.tables.map (e.sheet (e.classifierOf o))⟩

def enumSection (e : Emission) (o : Outline) : Section := ⟨"Enums", "\n", o.enums.map e.enum⟩

def compositeSection (e : Emission) (o : Outline) : Section :=
  ⟨"CompositeTypes", ",\n\n", o.composites.map (e.composite (e.classifierOf o))⟩

/-- the output is made of its sections -/
theorem page_eq (e : Emission) (o : Outline) : e.page o
    = frame [braced schemaIndent o.key (.stacked
      [(e.tableSection o).layout, placeholder "Views" "/* No support for views */",
       placeholder "Functions" "/* No support for functions */", (e.enumSection o).layout,
       (e.compositeSection o).layout])] := rfl

/-! ## how entries begin -/

/-- an entry begins at the indentation of entries, and with no bracket -/
def Opening (node : Layout) : Prop := ∃ c t, node.text = entryIndent ++ c :: t ∧ c ≠ '['

theorem opening_key {node : Layout} (name t : Text)
    (h : node.text = entryIndent ++ (Key.ofName name ++ t)) (ht : t ≠ []) : Opening node := by
  have hne : Key.ofName name ++ t ≠ [] := fun e => ht (List.append_eq_nil_iff.mp e).2
  obtain ⟨c, u, e⟩ := List.exists_cons_of_ne_nil hne
  refine ⟨c, u, by rw [h, e], ?_⟩
  rintro rfl
  exact key_ne_bracket name t u e

theorem opening_braced (name : Text) (body : Layout) :
    Opening (braced entryIndent (Key.ofName name) body) := by
  refine opening_key name (": \x7b".toList ++ ['\n'] ++ body.text ++ ['\n']
    ++ (entryIndent ++ "\x7d")) ?_ (by simp)
  simp [braced, Layout.text]

/-- a comment in front begins with a slash -/
theorem Opening.before {above : List Text} (ha : Sealed above) {node : Layout} (h : Opening node) :
    Opening (Layout.before above node entryIndent) := by
  rcases ha 6 with rfl | ⟨body, _, e⟩
  · exact h
  · by_cases hnil : above = []
    · rw [hnil, Layout.before_nil]
      exact h
    · refine ⟨'/', '*' :: ('*' :: body) ++ ['*', '/'] ++ ['\n'] ++ node.text, ?_, by decide⟩
      rw [Layout.text_before above node entryIndent hnil, entryIndent, e]
      simp

theorem opening_sheet (e : Emission) (c : Classifier) {t : Outline.Table}
    (hk : t.key = Key.ofName t.name) : Opening (e.sheet c t) := by
  unfold sheet tableBlock
  dsimp only
  rw [hk]
  exact (opening_braced t.name _).before (sealed_shown _ (sealed_ofLines _))

theorem opening_enum (e : Emission) {x : Enum} (hk : x.key = Key.ofName x.name) :
    Opening (e.enum x) := by
  have hline : Opening (.verbatim (entryIndent ++ x.key ++ ": " ++ variantUnion x.variants)) := by
    refine opening_key x.name (": ".toList ++ variantUnion x.variants) ?_ (by simp)
    rw [Layout.text, hk]
    simp
  exact hline.before (sealed_shown _ (sealed_ofEnum x))

theorem opening_composite (e : Emission) (c : Classifier) {x : Composite}
    (hk : x.key = Key.ofName x.name) : Opening (e.composite c x) := by
  unfold composite
  rw [hk]
  exact opening_braced x.name _

/-! ## counting -/

/-- the text of a section without entries -/
theorem text_entries_eq_iff {sep : Text} {nodes : List Layout} (h : ∀ n ∈ nodes, Opening n) :
    (entries sep nodes).text = entryIndent ++ emptySection ↔ nodes = [] := by
  constructor
  · intro e
    cases nodes with
    | nil => rfl
    | cons n nodes =>
      exfalso
      -- the first entry begins where the bracket of a section without entries would be
      obtain ⟨c, t, hn, hc⟩ := h n List.mem_cons_self
      have htext : (entries sep (n :: nodes)).text
          = entryIndent ++ c :: (t ++ (Layout.texts nodes).flatMap (sep ++ ·)) := by
        show (Layout.joined (n :: nodes) sep).text = _
        rw [Layout.text, Layout.texts, Text.joined_cons_eq_flatMap, hn]
        simp
      have hempty : emptySection = '[' :: "_ in never]: never".toList := by
        unfold emptySection
        simp
      rw [htext, hempty] at e
      exact hc (List.cons.inj (List.append_cancel_left e)).1
  · rintro rfl
    rfl

/-- the number is that of the entries of a section, and it is zero exactly if the section says that it has
none -/
structure Section.Counts (x : Section) (n : Nat) : Prop where
  length : n = x.nodes.length
  zero : n = 0 ↔ x.body.text = entryIndent ++ emptySection

theorem Section.counts {x : Section} (h : ∀ n ∈ x.nodes, Opening n) : x.Counts x.nodes.length :=
  ⟨rfl, List.length_eq_zero_iff.trans (text_entries_eq_iff h).symm⟩

variable (e : Emission) {o : Outline} (h : o.Keyed)
include h

theorem counts_tables : (e.tableSection o).Counts o.tables.length := by
  have hc := Section.counts (x := e.tableSection o) fun n hn => by
    obtain ⟨t, ht, rfl⟩ := List.mem_map.mp hn
    exact e.opening_sheet _ (h.tables t ht)
  rwa [show (e.tableSection o).nodes.length = o.tables.length from List.length_map _] at hc

theorem counts_enums : (e.enumSection o).Counts o.enums.length := by
  have hc := Section.counts (x := e.enumSection o) fun n hn => by
    obtain ⟨x, hx, rfl⟩ := List.mem_map.mp hn
    exact e.opening_enum (h.enums x hx)
  rwa [show (e.enumSection o).nodes.length = o.enums.length from List.length_map _] at hc

theorem counts_composites : (e.compositeSection o).Counts o.composites.length := by
  have hc := Section.counts (x := e.compositeSection o) fun n hn => by
    obtain ⟨x, hx, rfl⟩ := List.mem_map.mp hn
    exact e.opening_composite _ (h.composites x hx)
  rwa [show (e.compositeSection o).nodes.length = o.composites.length from List.length_map _] at hc

end DatabaseTypes.Emission
