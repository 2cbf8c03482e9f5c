import DatabaseTypes.Proofs.Drawn.Schema

/-!
# The characters of the output

The output has the characters of the model and ASCII ones, and no others: a model without halves of surrogate
pairs has an output that has bytes.

* `Layout.Drawn`            a piece of the output
* `Emission.drawn_page`     the output for an outline
* `mem_generateTypes`       where a character of the output comes from
* `encoded_generateTypes`   the bytes of the output
-/

namespace DatabaseTypes

variable {P : Char → Prop}

/-! ## pieces -/

/-- a piece whose text is drawn -/
def Layout.Drawn (P : Char → Prop) (node : Layout) : Prop := DatabaseTypes.Drawn P node.text

namespace Layout

theorem drawn_lines {ls : List Text} {indent : Text} (hi : DatabaseTypes.Drawn P indent)
    (h : ∀ l ∈ ls, DatabaseTypes.Drawn P l) : (lines ls indent).Drawn P := by
  refine drawn_joined (.cons (by decide) drawn_nil) fun t ht => ?_
  obtain ⟨l, hl, rfl⟩ := List.mem_map.mp ht
  exact hi.append (h l hl)

theorem drawn_joined {nodes : List Layout} {sep : Text} (hsep : DatabaseTypes.Drawn P sep)
    (h : ∀ n ∈ nodes, n.Drawn P) : (joined nodes sep).Drawn P := by
  rw [Layout.Drawn, text, texts_eq_map]
  refine DatabaseTypes.drawn_joined hsep fun t ht => ?_
  obtain ⟨n, hn, rfl⟩ := List.mem_map.mp ht
  exact h n hn

theorem drawn_stacked {nodes : List Layout} (h : ∀ n ∈ nodes, n.Drawn P) : (stacked nodes).Drawn P :=
  drawn_joined (.cons (by decide) drawn_nil) h

theorem drawn_block {opening closing : Text} {body : Layout} (ho : DatabaseTypes.Drawn P opening)
    (h : body.Drawn P) (hc : DatabaseTypes.Drawn P closing) : (block opening body closing).Drawn P := by
  have hline : DatabaseTypes.Drawn P ['\n'] := .cons (by decide) drawn_nil
  exact (((ho.append hline).append h).append hline).append hc

theorem drawn_before {above : List Text} {node : Layout} {indent : Text}
    (ha : ∀ l ∈ above, DatabaseTypes.Drawn P l) (hi : DatabaseTypes.Drawn P indent)
    (h : node.Drawn P) : (before above node indent).Drawn P := by
  unfold before
  split
  · exact h
  · exact drawn_stacked (List.forall_mem_cons.mpr ⟨drawn_lines hi ha, List.forall_mem_singleton.mpr h⟩)

end Layout

/-! ## comments -/

namespace Comment

theorem drawn_escaped {line : Text} (h : Drawn P line) : Drawn P (escaped line) := by
  intro c hc
  rcases Text.mem_of_mem_replacedFrom hc with hc | hc
  · exact drawn_constant (l := ['*', '\\', '/']) rfl c hc
  · exact h c hc

theorem drawn_blockLine {line : Text} (h : Drawn P line) : Drawn P (blockLine line) :=
  ((drawn_constant rfl).append (drawn_escaped h)).subset (Text.prefix_trimEnd _).subset

theorem drawn_block {ls : List Text} (h : ∀ l ∈ ls, Drawn P l) :
    ∀ l ∈ opening :: ls.map blockLine ++ [closing], Drawn P l := by
  intro l hl
  rcases List.mem_append.mp hl with hl | hl
  · rcases List.mem_cons.mp hl with rfl | hl
    · exact drawn_constant rfl
    · obtain ⟨l', hl', rfl⟩ := List.mem_map.mp hl
      exact drawn_blockLine (h l' hl')
  · rw [List.mem_singleton.mp hl]
    exact drawn_constant rfl

theorem drawn_ofLines {ls : List Text} (h : ∀ l ∈ ls, Drawn P l) : ∀ l ∈ ofLines ls, Drawn P l := by
  match ls with
  | [] => exact fun l hl => absurd hl List.not_mem_nil
  | [line] =>
    have hline := drawn_escaped (h line List.mem_cons_self)
    refine List.forall_mem_singleton.mpr (Drawn.append ?_ (drawn_constant rfl))
    exact ((drawn_constant rfl).append (drawn_constant rfl)).append hline
  | l :: m :: ls => exact drawn_block h

theorem drawn_ofEnum {x : Enum} (h : x.Drawn P) : ∀ l ∈ ofEnum x, Drawn P l := by
  have hvariants : ∀ l ∈ variantLines x, Drawn P l := by
    intro l hl
    obtain ⟨v, hv, rfl⟩ := List.mem_map.mp hl
    have hv := h.variants v (List.mem_filter.mp hv).1
    refine ((Json.drawn_display hv.name).append (drawn_constant rfl)).append ?_
    exact drawn_joined (drawn_constant rfl) fun l hl => hv.documentation l (List.mem_filter.mp hl).1
  unfold ofEnum
  split
  · exact drawn_ofLines h.documentation
  · exact drawn_block (List.forall_mem_append.mpr ⟨h.documentation, hvariants⟩)

theorem drawn_shown (enabled : Bool) {ls : List Text} (h : ∀ l ∈ ls, Drawn P l) :
    ∀ l ∈ shown enabled ls, Drawn P l := by
  cases enabled
  · exact fun l hl => absurd hl List.not_mem_nil
  · exact h

end Comment

/-! ## types -/

namespace Classifier

variable {c : Classifier} (hscalars : ∀ x, Drawn P (c.scalars x)) (hname : Drawn P c.schemaName)
include hscalars hname

theorem drawn_typeOf {f : Field} (h : f.shape.Drawn P) : Drawn P (c.typeOf f) := by
  have hreference : ∀ {section' name}, Drawn P section' → Drawn P name →
      Drawn P (c.reference section' name) := by
    intro section' name hs hn
    exact ((((((drawn_constant rfl).append hname).append (drawn_constant rfl)).append hs).append
      (drawn_constant rfl)).append hn).append (drawn_constant rfl)
  unfold typeOf
  cases hs : f.shape with
  | scalar x =>
    cases x with
    | none => exact drawn_constant rfl
    | some x => exact hscalars x
  | enum name =>
    rw [hs] at h
    exact hreference (drawn_constant rfl) h
  | composite name =>
    rw [hs] at h
    exact hreference (drawn_constant rfl) h
  | relation r =>
    rw [hs] at h
    exact h.2.1
  | unsupported kind => exact drawn_constant rfl

omit hscalars hname in
theorem drawn_orNull {t : Text} (h : Drawn P t) : Drawn P (unionType [t, nullType]) := by
  refine drawn_joined (drawn_constant rfl) ?_
  exact List.forall_mem_cons.mpr ⟨h, List.forall_mem_singleton.mpr (drawn_constant rfl)⟩

theorem drawn_readType {f : Field} (h : f.shape.Drawn P) : Drawn P (c.readType f) := by
  unfold readType withNull
  split
  · exact drawn_typeOf hscalars hname h
  · exact drawn_orNull (drawn_typeOf hscalars hname h)

theorem drawn_memberType {m : Member} (h : m.Drawn P) : Drawn P (c.memberType m.type) := by
  cases e : m.type with
  | none => exact drawn_constant rfl
  | some f => exact drawn_orNull (drawn_typeOf hscalars hname (h.type f e).shape)

end Classifier

/-! ## declarations -/

namespace Accessors

theorem isAscii_jsonAlias : jsonAlias.IsAscii := by
  unfold jsonAlias
  repeat rw [String.toList_ofList]
  decide +kernel

theorem isAscii_declarations : ∀ ls ∈ [publicSchema, tables, tablesInsert, tablesUpdate, enums,
    compositeTypes], (Text.joined "\n" ls).IsAscii := by
  intro ls h
  simp only [List.mem_cons, List.not_mem_nil, or_false] at h
  rcases h with rfl | rfl | rfl | rfl | rfl | rfl
  all_goals
    simp only [publicSchema, tables, tablesInsert, tablesUpdate, enums, compositeTypes]
    repeat rw [String.toList_ofList]
    decide +kernel

theorem drawn_text : Drawn P text := by
  refine (drawn_joined (drawn_constant rfl) fun t ht => ?_).append (drawn_constant rfl)
  obtain ⟨ls, hls, rfl⟩ := List.mem_map.mp ht
  exact drawn_of_isAscii (isAscii_declarations ls hls)

end Accessors

/-! ## entries -/

/-- what a member of a record shows -/
structure Projection.Drawn (P : Char → Prop) (p : Projection) : Prop where
  name : DatabaseTypes.Drawn P p.name.chars
  type : DatabaseTypes.Drawn P p.type
  documentation : ∀ l ∈ p.documentation, DatabaseTypes.Drawn P l

theorem Projection.drawn_forbidden {f : Field} (h : f.Drawn P) :
    (Projection.forbidden f).Drawn P :=
  ⟨h.name, drawn_constant rfl, h.documentation⟩

namespace Emission

theorem drawn_braced {n : Nat} {title : Text} (ht : Drawn P title) {body : Layout}
    (h : body.Drawn P) : (braced (Text.spaces n) title body).Drawn P :=
  Layout.drawn_block (((drawn_spaces n).append ht).append (drawn_constant rfl)) h
    ((drawn_spaces n).append (drawn_constant rfl))

theorem drawn_record (e : Emission) {title : Text} (ht : Drawn P title) {ps : List Projection}
    (h : ∀ p ∈ ps, p.Drawn P) : (e.record title ps).Drawn P := by
  refine drawn_braced ht (Layout.drawn_joined (drawn_constant rfl) fun n hn => ?_)
  obtain ⟨p, hp, rfl⟩ := List.mem_map.mp hn
  have hmark : Drawn P (if p.isOptional then "?" else "").toList := by
    cases p.isOptional
    · exact drawn_constant (l := []) rfl
    · exact drawn_constant rfl
  refine Layout.drawn_before ?_ (drawn_spaces 10) ?_
  · exact Comment.drawn_shown _ (Comment.drawn_ofLines (h p hp).documentation)
  · exact ((((drawn_spaces 10).append (Json.drawn_display (h p hp).name)).append hmark).append
      (drawn_constant rfl)).append (h p hp).type

theorem drawn_relationship {r : Relationship} (hn : Drawn P r.name.chars) (ht : Drawn P r.target)
    (hc : Drawn P (Json.itemChars r.columns)) (hr : Drawn P (Json.itemChars r.referenced)) :
    (relationship r).Drawn P := by
  have hname := Json.drawn_written Json.Style.faithful_plain hn
  have hlist : ∀ vs, Drawn P (Json.itemChars vs) →
      Drawn P ((Json.list vs).written .compact) := fun vs hvs =>
    Json.drawn_written (v := .list vs) Json.Style.faithful_compact hvs
  have hone : Drawn P (if r.isOneToOne then "true" else "false").toList := by
    cases r.isOneToOne <;> exact drawn_constant rfl
  refine Layout.drawn_block ((drawn_spaces 10).append (drawn_constant rfl))
    (Layout.drawn_lines (drawn_spaces 12) fun l hl => ?_)
    ((drawn_spaces 10).append (drawn_constant rfl))
  simp only [relationshipLines, List.mem_cons, List.not_mem_nil, or_false] at hl
  rcases hl with rfl | rfl | rfl | rfl | rfl
  · exact ((drawn_constant rfl).append hname).append (drawn_constant rfl)
  · exact ((drawn_constant rfl).append (hlist _ hc)).append (drawn_constant rfl)
  · exact ((drawn_constant rfl).append hone).append (drawn_constant rfl)
  · exact ((drawn_constant rfl).append ht.literal).append (drawn_constant rfl)
  · exact (drawn_constant rfl).append (hlist _ hr)

section
variable (e : Emission) {c : Classifier} (hscalars : ∀ x, Drawn P (c.scalars x))
  (hname : Drawn P c.schemaName)
include hscalars hname

theorem drawn_sheet {t : Outline.Table} (h : t.Drawn P) : (e.sheet c t).Drawn P := by
  have hread : ∀ f ∈ t.columns, Drawn P (c.readType f) := fun f hf =>
    c.drawn_readType hscalars hname (h.columns f hf).shape
  have hrow : ∀ p ∈ t.columns.map c.row, p.Drawn P := by
    intro p hp
    obtain ⟨f, hf, rfl⟩ := List.mem_map.mp hp
    exact ⟨(h.columns f hf).name, hread f hf, (h.columns f hf).documentation⟩
  have hinsert : ∀ p ∈ t.columns.map c.insert, p.Drawn P := by
    intro p hp
    obtain ⟨f, hf, rfl⟩ := List.mem_map.mp hp
    unfold Classifier.insert
    split
    · exact Projection.drawn_forbidden (h.columns f hf)
    · exact ⟨(h.columns f hf).name, hread f hf, (h.columns f hf).documentation⟩
  have hupdate : ∀ p ∈ t.columns.map c.update, p.Drawn P := by
    intro p hp
    obtain ⟨f, hf, rfl⟩ := List.mem_map.mp hp
    unfold Classifier.update
    split
    · exact Projection.drawn_forbidden (h.columns f hf)
    · exact ⟨(h.columns f hf).name, hread f hf, (h.columns f hf).documentation⟩
  have hkeys : (relationships t.relationships).Drawn P := by
    refine Layout.drawn_block ((drawn_spaces 8).append (drawn_constant rfl))
      (Layout.drawn_joined (drawn_constant rfl) fun n hn => ?_)
      ((drawn_spaces 8).append (drawn_constant rfl))
    obtain ⟨r, hr, rfl⟩ := List.mem_map.mp hn
    obtain ⟨hn, ht, hc, hr⟩ := h.relationships r hr
    exact drawn_relationship hn ht hc hr
  refine Layout.drawn_before (Comment.drawn_shown _ (Comment.drawn_ofLines h.documentation))
    (drawn_spaces 6) (drawn_braced h.key (Layout.drawn_stacked ?_))
  intro n hn
  simp only [List.mem_cons, List.not_mem_nil, or_false] at hn
  rcases hn with rfl | rfl | rfl | rfl
  · exact e.drawn_record (drawn_constant rfl) hrow
  · exact e.drawn_record (drawn_constant rfl) hinsert
  · exact e.drawn_record (drawn_constant rfl) hupdate
  · exact hkeys

theorem drawn_composite {x : Composite} (h : x.Drawn P) : (e.composite c x).Drawn P := by
  refine drawn_braced h.key (Layout.drawn_joined (drawn_constant rfl) fun n hn => ?_)
  obtain ⟨m, hm, rfl⟩ := List.mem_map.mp hn
  have hm := h.members m hm
  refine Layout.drawn_before (Comment.drawn_shown _ (Comment.drawn_ofLines hm.documentation))
    (drawn_spaces 8) ?_
  exact (((drawn_spaces 8).append (Json.drawn_display hm.name)).append (drawn_constant rfl)).append
    (c.drawn_memberType hscalars hname hm)

end

theorem drawn_enum (e : Emission) {x : Enum} (h : x.Drawn P) : (e.enum x).Drawn P := by
  have hunion : Drawn P (variantUnion x.variants) := by
    refine drawn_joined (drawn_constant rfl) fun t ht => ?_
    obtain ⟨v, hv, rfl⟩ := List.mem_map.mp ht
    exact Json.drawn_written Json.Style.faithful_plain (h.variants v hv).name
  refine Layout.drawn_before (Comment.drawn_shown _ (Comment.drawn_ofEnum h)) (drawn_spaces 6) ?_
  exact (((drawn_spaces 6).append h.key).append (drawn_constant rfl)).append hunion

/-! ## the output -/

theorem drawn_entries {sep : Text} (hsep : Drawn P sep) {nodes : List Layout}
    (h : ∀ n ∈ nodes, n.Drawn P) : (entries sep nodes).Drawn P := by
  unfold entries
  split
  · exact (drawn_spaces 6).append (drawn_constant rfl)
  · exact Layout.drawn_joined hsep h

theorem drawn_page {e : Emission} (hscalars : ∀ x, Drawn P (e.scalars x)) {o : Outline}
    (h : o.Drawn P) : (e.page o).Drawn P := by
  have hentries : ∀ {α : Type} (f : α → Layout) (xs : List α), (∀ x ∈ xs, (f x).Drawn P) →
      ∀ n ∈ xs.map f, n.Drawn P := by
    intro α f xs hf n hn
    obtain ⟨x, hx, rfl⟩ := List.mem_map.mp hn
    exact hf x hx
  have hsections : ∀ n ∈ e.sections o, n.Drawn P := by
    intro n hn
    simp only [sections, List.mem_cons, List.not_mem_nil, or_false] at hn
    rcases hn with rfl | rfl | rfl | rfl | rfl
    · exact drawn_braced (drawn_constant rfl) (drawn_entries (drawn_constant rfl)
        (hentries _ _ fun t ht => e.drawn_sheet hscalars h.name (h.tables t ht)))
    · exact drawn_braced (drawn_constant rfl) ((drawn_spaces 6).append (drawn_constant rfl))
    · exact drawn_braced (drawn_constant rfl) ((drawn_spaces 6).append (drawn_constant rfl))
    · exact drawn_braced (drawn_constant rfl) (drawn_entries (drawn_constant rfl)
        (hentries _ _ fun x hx => e.drawn_enum (h.enums x hx)))
    · exact drawn_braced (drawn_constant rfl) (drawn_entries (drawn_constant rfl)
        (hentries _ _ fun x hx => e.drawn_composite hscalars h.name (h.composites x hx)))
  have hblock := drawn_braced (n := 2) h.key (Layout.drawn_stacked hsections)
  have hline : Drawn P ['\n'] := .cons (by decide) drawn_nil
  have hbraces := ((hline.append hblock).append hline).append
    (.cons (by decide) drawn_nil : Drawn P ['\x7d'])
  rw [Layout.Drawn, page, text_frame]
  exact (((((((hline.append (drawn_of_isAscii Accessors.isAscii_jsonAlias)).append
    (hline.append hline)).append (drawn_constant rfl)).append (hbraces.cons (by decide))).append
      (hline.append (hline.append hline))).append Accessors.drawn_text).append
        hline)

end Emission

theorem ScalarTable.drawn_standard (x : Scalar) : Drawn P (ScalarTable.standard x) := by
  cases x <;> exact drawn_constant rfl

theorem drawn_generateTypes {datamodel : Json} {documentation : Bool} {t : Text}
    (h : generateTypes datamodel documentation = .ok t) (hd : Drawn P datamodel.chars) :
    Drawn P t := by
  obtain ⟨s, o, hs, ho, rfl⟩ := generateTypes_eq_ok_iff.mp h
  exact Emission.drawn_page ScalarTable.drawn_standard ((Schema.drawn_ofJson hd s hs).outline ho)

/-- **Where a character comes from.** A character of the output is ASCII, or it is one of the model. -/
theorem mem_generateTypes {datamodel : Json} {documentation : Bool} {t : Text}
    (h : generateTypes datamodel documentation = .ok t) {c : Char} (hc : c ∈ t) :
    c.toNat < 128 ∨ c ∈ datamodel.chars :=
  drawn_generateTypes (P := (· ∈ datamodel.chars)) h (fun _ hd => .inr hd) c hc

/-- the output of a model without halves of surrogate pairs has bytes -/
theorem encoded_generateTypes {datamodel : Json} {documentation : Bool} {t : Text}
    (h : generateTypes datamodel documentation = .ok t)
    (hd : ∀ c ∈ datamodel.chars, isHalf c = false) : t.encoded = .ok t.toBytes := by
  refine Text.encoded_of_all fun c hc => ?_
  rcases mem_generateTypes h hc with hc | hc
  · simp only [isHalf, Bool.and_eq_false_iff, decide_eq_false_iff_not]
    omega
  · exact hd c hc

end DatabaseTypes
