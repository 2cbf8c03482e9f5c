import DatabaseTypes.Proofs.Comment
import DatabaseTypes.Proofs.Documentation
import DatabaseTypes.Proofs.Formatting
import DatabaseTypes.Proofs.Style.Laid
import DatabaseTypes.Proofs.Tokens.Page
import DatabaseTypes.Proofs.Unnamed

/-!
# The style of the output

The output for a model is in the built-in style, but for one more line feed at its end, if no line ends in a name or in
a line of documentation.  Names that stand in the output as they are have to be identifiers, for others are not kept
from ending with white space; and documentation has to be text, for the lines of a list are kept as they are, with
whatever ends a line in them.

* `Outline.InLines`        no line ends in the names and the documentation of an outline
* `Comment.isLaid_ofLines`, `Comment.isLaid_ofEnum`   the lines of comments
* `Emission.isLaid_sheet`, `Emission.isLaid_enum`, `Emission.isLaid_composite`   the entries of the sections
* `Emission.isTidy_page`   the output for an outline
* `Schema.namesLines`      no line ends in the names of a schema that are keys, string literals or parts of comments
* `Json.documentsTexts`    all documentation in a model is text
* `tidied_generateTypes`   the output for a model
-/

namespace DatabaseTypes

open Outcome (Gives)
open Style (IsLaid)
open Text (IsLine)

/-! ## texts in one line -/

theorem Text.isLine_spaces (n : Nat) : IsLine (Text.spaces n) := by
  intro c hc
  rw [List.eq_of_mem_replicate hc]
  decide

theorem Text.isLine_joined {sep : Text} (hsep : IsLine sep) {ts : List Text} (h : ∀ t ∈ ts, IsLine t) :
    IsLine (Text.joined sep ts) := by
  intro c hc
  rcases Text.exists_of_mem_joined hc with hc | ⟨t, ht, hc⟩
  · exact hsep c hc
  · exact h t ht c hc

theorem Key.isBlank_of_isTail {c : Char} (h : Key.isTail c = true) : Text.isBlank c = false := by
  obtain ⟨hlow, hhigh⟩ := Key.toNat_of_isTail h
  simp only [Text.isBlank, if_pos hhigh, Bool.or_eq_false_iff, Bool.and_eq_false_iff, decide_eq_false_iff_not]
  omega

theorem Key.isLine_of_isIdentifier {name : Text} (h : Key.isIdentifier name = true) : IsLine name := by
  intro c hc
  by_contra hbreak
  have hblank := Text.isBlank_of_isLineBreak (Bool.not_eq_false _ ▸ hbreak)
  rw [Key.isBlank_of_isTail (Key.isTail_of_mem h c hc)] at hblank
  cases hblank

theorem Key.isLaid_of_isIdentifier {name : Text} (h : Key.isIdentifier name = true) : IsLaid name where
  chain := Style.isChain_of_isLine (Key.isLine_of_isIdentifier h)
  head c hc := Key.isLine_of_isIdentifier h c (List.mem_of_mem_head? hc)
  last := by
    obtain ⟨c, t, rfl, _⟩ := Key.exists_cons_of_isIdentifier h
    have hlast := List.getLast_mem_getLast? (List.cons_ne_nil c t)
    exact ⟨_, hlast, Key.isBlank_of_isTail (Key.isTail_of_mem h _ (List.mem_of_getLast? hlast))⟩

theorem Json.isLine_literalChar {c : Char} (h : Text.isLineBreak c = false) : IsLine (Json.literalChar false c) := by
  have hescapes : ∀ p ∈ Json.escapes, IsLine ['\\', p.2] := by decide
  rcases Json.literalChar_eq c with ⟨d, hd, e⟩ | ⟨_, e⟩ | ⟨_, _, _, e⟩
  · rw [e]
    exact hescapes _ hd
  · have hdigits : IsLine (Text.hexadecimal 4 c.toNat) := by
      intro d hd
      have hdigit : ∀ m < 16, Text.isLineBreak (Nat.digitChar m) = false := by decide
      obtain ⟨m, rfl⟩ := Text.exists_of_mem_hexadecimal hd
      exact hdigit _ (Nat.mod_lt _ (by decide))
    rw [e]
    exact (show IsLine ['\\', 'u'] by decide).append hdigits
  · rw [e]
    exact List.forall_mem_singleton.mpr h

/-- a literal but for its last quote -/
theorem Json.isLine_opened {t : Text} (h : IsLine t) : IsLine ('"' :: t.flatMap (Json.literalChar false)) := by
  refine List.forall_mem_cons.mpr ⟨by decide, fun c hc => ?_⟩
  obtain ⟨d, hd, hc⟩ := List.mem_flatMap.mp hc
  exact Json.isLine_literalChar (h d hd) c hc

theorem Json.isLine_literal {t : Text} (h : IsLine t) : IsLine (Json.literal false t) :=
  (Json.isLine_opened h).append (by decide)

theorem Json.isLaid_literal {t : Text} (h : IsLine t) : IsLaid (Json.literal false t) :=
  .inLine (Json.isLine_opened h) (by decide)

theorem Key.isLine_ofName {name : Text} (h : IsLine name) : IsLine (Key.ofName name) := by
  unfold Key.ofName
  split
  · exact h
  · exact Json.isLine_literal h

/-! ## values -/

/-- is the value a text in which no line ends? -/
def Json.isLine : Json → Bool
  | .text t => decide (IsLine t)
  | _ => false

namespace Json

theorem exists_of_isLine {v : Json} (h : v.isLine = true) : ∃ t, v = .text t ∧ IsLine t := by
  cases v with
  | text t => exact ⟨t, rfl, of_decide_eq_true h⟩
  | null | bool | int | float | list | object => cases h

theorem isLine_display {v : Json} (h : v.isLine = true) : IsLine v.display := by
  obtain ⟨t, rfl, ht⟩ := exists_of_isLine h
  exact ht

theorem isLine_display_identifier {v : Json} (h : v.isIdentifier = true) : IsLine v.display := by
  obtain ⟨t, rfl, ht⟩ := exists_of_isIdentifier h
  exact Key.isLine_of_isIdentifier ht

theorem isLaid_written {v : Json} (h : v.isLine = true) : IsLaid (v.written .plain) := by
  obtain ⟨t, rfl, ht⟩ := exists_of_isLine h
  exact isLaid_literal ht

theorem isLaid_written_list {vs : List Json} (h : ∀ v ∈ vs, v.isLine = true) :
    IsLaid ((list vs).written .compact) := by
  have hitems : IsLine (Text.joined Json.Style.compact.separator (writtenItems .compact vs)) := by
    rw [writtenItems_eq_map]
    refine Text.isLine_joined (by decide) fun t ht => ?_
    obtain ⟨v, hv, rfl⟩ := List.mem_map.mp ht
    obtain ⟨u, rfl, hu⟩ := exists_of_isLine (h v hv)
    exact isLine_literal hu
  rw [written_list]
  exact .inLine (l := '[' :: _) (List.forall_mem_cons.mpr ⟨by decide, hitems⟩) (by decide)

end Json

/-! ## outlines -/

/-- no line ends in the names of a foreign key -/
structure Relationship.InLines (r : Relationship) : Prop where
  name : r.name.isLine = true
  target : IsLine r.target
  columns : ∀ v ∈ r.columns, v.isLine = true
  referenced : ∀ v ∈ r.referenced, v.isLine = true

/-- no line ends in the key, the documentation and the foreign keys of a table -/
structure Outline.Table.InLines (t : Outline.Table) : Prop where
  key : IsLine t.key
  documentation : ∀ l ∈ t.documentation, IsLine l
  columns : ∀ f ∈ t.columns, ∀ l ∈ f.documentation, IsLine l
  relationships : ∀ r ∈ t.relationships, r.InLines

/-- no line ends in an enum, which has a variant -/
structure Enum.InLines (x : Enum) : Prop where
  key : IsLine x.key
  documentation : ∀ l ∈ x.documentation, IsLine l
  ne_nil : x.variants ≠ []
  names : ∀ v ∈ x.variants, v.name.isLine = true
  variants : ∀ v ∈ x.variants, ∀ l ∈ v.documentation, IsLine l

/-- no line ends in a composite type, which has a member -/
structure Composite.InLines (x : Composite) : Prop where
  key : IsLine x.key
  ne_nil : x.members ≠ []
  members : ∀ m ∈ x.members, ∀ l ∈ m.documentation, IsLine l

/-- no line ends in the names and the documentation of an outline -/
structure Outline.InLines (o : Outline) : Prop where
  tables : ∀ t ∈ o.tables, t.InLines
  enums : ∀ x ∈ o.enums, x.InLines
  composites : ∀ x ∈ o.composites, x.InLines

/-! ## comments -/

namespace Comment

theorem isLine_escaped {line : Text} (h : IsLine line) : IsLine (escaped line) := by
  intro c hc
  rcases Text.mem_of_mem_replacedFrom hc with hc | hc
  · exact (show IsLine "*\\/" by decide) c hc
  · exact h c hc

theorem isLaid_blockLine {line : Text} (h : IsLine line) : IsLaid (blockLine line) := by
  have hline : IsLine (blockLine line) :=
    (IsLine.append (show IsLine " * " by decide) (isLine_escaped h)).trimEnd
  -- the star is left, even if the line is blank
  have hne : blockLine line ≠ [] := by
    intro e
    have := star_blockLine line
    rw [e] at this
    cases List.prefix_nil.mp this
  have hlast := List.getLast_mem_getLast? hne
  exact ⟨Style.isChain_of_isLine hline, fun c hc => hline c (List.mem_of_mem_head? hc), _, hlast,
    Text.isTrimmed_trimEnd _ _ hlast⟩

theorem isLaid_block {ls : List Text} (h : ∀ l ∈ ls, IsLine l) :
    ∀ l ∈ opening :: ls.map blockLine ++ [closing], IsLaid l := by
  refine List.forall_mem_append.mpr ⟨List.forall_mem_cons.mpr ⟨by decide, fun l hl => ?_⟩,
    List.forall_mem_singleton.mpr (by decide)⟩
  obtain ⟨m, hm, rfl⟩ := List.mem_map.mp hl
  exact isLaid_blockLine (h m hm)

theorem isLaid_ofLines {ls : List Text} (h : ∀ l ∈ ls, IsLine l) : ∀ l ∈ ofLines ls, IsLaid l := by
  match ls with
  | [] => exact fun l hl => absurd hl List.not_mem_nil
  | [line] =>
    have hline := isLine_escaped (h line List.mem_cons_self)
    exact List.forall_mem_singleton.mpr (.inLine (IsLine.append (by decide) hline) (by decide))
  | l :: m :: ls => exact isLaid_block h

theorem isLaid_ofEnum {x : Enum} (h : x.InLines) : ∀ l ∈ ofEnum x, IsLaid l := by
  have hvariants : ∀ l ∈ variantLines x, IsLine l := by
    intro l hl
    obtain ⟨v, hv, rfl⟩ := List.mem_map.mp hl
    have hv := (List.mem_filter.mp hv).1
    refine ((Json.isLine_display (h.names v hv)).append (by decide)).append (Text.isLine_joined (by decide) ?_)
    exact fun l hl => h.variants v hv l (List.mem_filter.mp hl).1
  unfold ofEnum
  split
  · exact isLaid_ofLines h.documentation
  · exact isLaid_block (List.forall_mem_append.mpr ⟨h.documentation, hvariants⟩)

theorem isLaid_shown (enabled : Bool) {ls : List Text} (h : ∀ l ∈ ls, IsLaid l) : ∀ l ∈ shown enabled ls, IsLaid l := by
  cases enabled
  · exact fun l hl => absurd hl List.not_mem_nil
  · exact h

end Comment

/-! ## types -/

theorem isLaid_unionType {types : List Text} (hne : types ≠ []) (h : ∀ t ∈ types, IsLaid t) :
    IsLaid (unionType types) := Style.isLaid_joined (by decide) hne h

theorem Classifier.ensures_isLaid {c : Classifier} (hscalars : ∀ x, IsLaid (c.scalars x)) (hname : IsLine c.schemaName) :
    c.Ensures IsLaid where
  scalar := hscalars
  unknown := by decide
  never := by decide
  reference he hn := by
    have hentries := Key.isLine_of_isIdentifier he
    have hname' := Key.isLine_of_isIdentifier hn
    unfold Classifier.reference
    exact .inLine ((((IsLine.append (by decide) hname).append (by decide)).append hentries).append
      (by decide) |>.append hname') (by decide)
  identifier h := Key.isLaid_of_isIdentifier h
  orNull h := isLaid_unionType (List.cons_ne_nil _ _)
    (List.forall_mem_cons.mpr ⟨h, List.forall_mem_singleton.mpr (by decide)⟩)

/-! ## declarations -/

namespace Accessors

theorem isLaid_jsonAlias : IsLaid jsonAlias := by
  unfold jsonAlias
  repeat rw [String.toList_ofList]
  decide +kernel

theorem isLaid_declarations : ∀ ls ∈ [publicSchema, tables, tablesInsert, tablesUpdate, enums, compositeTypes],
    IsLaid (Text.joined "\n" ls) := by
  intro ls h
  simp only [List.mem_cons, List.not_mem_nil, or_false] at h
  rcases h with rfl | rfl | rfl | rfl | rfl | rfl
  all_goals
    simp only [publicSchema, tables, tablesInsert, tablesUpdate, enums, compositeTypes]
    repeat rw [String.toList_ofList]
    decide +kernel

/-- a line feed ends the declarations -/
theorem exists_text : ∃ u, text = u ++ ['\n'] ∧ IsLaid u := by
  refine ⟨_, rfl, Style.isLaid_joined (by decide) (List.cons_ne_nil _ _) fun t ht => ?_⟩
  obtain ⟨ls, hls, rfl⟩ := List.mem_map.mp ht
  exact isLaid_declarations ls hls

end Accessors

/-! ## entries -/

namespace Emission

theorem isLaid_braced {n : Nat} {title : Text} (ht : IsLine title) {body : Layout}
    (h : body.text = [] ∨ body.IsLaid) : (braced (Text.spaces n) title body).IsLaid :=
  Layout.isLaid_block (.inLine ((Text.isLine_spaces n).append ht) (by decide)) h
    (.inLine (Text.isLine_spaces n) (by decide))

theorem isLaid_record (e : Emission) {title : Text} (ht : IsLine title) {ps : List Projection}
    (h : ∀ p ∈ ps, p.name.isIdentifier = true ∧ IsLaid p.type) (hd : ∀ p ∈ ps, ∀ l ∈ p.documentation, IsLine l) :
    (e.record title ps).IsLaid := by
  -- without members, an empty line is left between the braces
  refine isLaid_braced ht (Layout.eq_nil_or_isLaid_joined (by decide) fun n hn => ?_)
  obtain ⟨p, hp, rfl⟩ := List.mem_map.mp hn
  obtain ⟨hname, htype⟩ := h p hp
  have hmark : IsLine (if p.isOptional then "?" else "").toList := by
    cases p.isOptional <;> decide
  refine Layout.isLaid_before (Text.isLine_spaces 10) ?_ (.inLine ?_ htype)
  · exact Comment.isLaid_shown _ (Comment.isLaid_ofLines (hd p hp))
  · exact (((Text.isLine_spaces 10).append (Json.isLine_display_identifier hname)).append hmark).append (by decide)

theorem isLaid_relationship {r : Relationship} (h : r.InLines) : (relationship r).IsLaid := by
  have hone : IsLine (if r.isOneToOne then "true" else "false").toList := by
    cases r.isOneToOne <;> decide
  refine Layout.isLaid_block (.inLine (Text.isLine_spaces 10) (by decide)) (.inr ?_)
    (.inLine (Text.isLine_spaces 10) (by decide))
  refine Layout.isLaid_lines (Text.isLine_spaces 12) (List.cons_ne_nil _ _) fun l hl => ?_
  simp only [relationshipLines, List.mem_cons, List.not_mem_nil, or_false] at hl
  rcases hl with rfl | rfl | rfl | rfl | rfl
  · exact (IsLaid.inLine (by decide) (Json.isLaid_written h.name)).append (by decide)
  · exact (IsLaid.inLine (by decide) (Json.isLaid_written_list h.columns)).append (by decide)
  · exact .inLine (IsLine.append (by decide) hone) (by decide)
  · exact (IsLaid.inLine (by decide) (Json.isLaid_literal h.target)).append (by decide)
  · exact IsLaid.inLine (by decide) (Json.isLaid_written_list h.referenced)

section
variable (e : Emission) {c : Classifier} (hc : c.Ensures IsLaid)
include hc

theorem isLaid_sheet {t : Outline.Table} (h : t.InLines)
    (hw : ∀ f ∈ t.columns, f.name.isIdentifier = true ∧ f.shape.namesIdentifiers = true) : (e.sheet c t).IsLaid := by
  have hdocumentation : ∀ project : Field → Projection, (∀ f, (project f).documentation = f.documentation) →
      ∀ p ∈ t.columns.map project, ∀ l ∈ p.documentation, IsLine l := by
    intro project hproject p hp
    obtain ⟨f, hf, rfl⟩ := List.mem_map.mp hp
    rw [hproject]
    exact h.columns f hf
  have hinsert : ∀ f, (c.insert f).documentation = f.documentation := by
    intro f
    unfold Classifier.insert
    split <;> rfl
  have hupdate : ∀ f, (c.update f).documentation = f.documentation := by
    intro f
    unfold Classifier.update
    split <;> rfl
  have hkeys : (relationships t.relationships).IsLaid := by
    refine Layout.isLaid_block (.inLine (Text.isLine_spaces 8) (by decide))
      (Layout.eq_nil_or_isLaid_joined (by decide) fun n hn => ?_) (.inLine (Text.isLine_spaces 8) (by decide))
    obtain ⟨r, hr, rfl⟩ := List.mem_map.mp hn
    exact isLaid_relationship (h.relationships r hr)
  refine Layout.isLaid_before (Text.isLine_spaces 6)
    (Comment.isLaid_shown _ (Comment.isLaid_ofLines h.documentation)) (isLaid_braced h.key (.inr ?_))
  refine Layout.isLaid_joined (by decide) (List.cons_ne_nil _ _) fun n hn => ?_
  simp only [List.mem_cons, List.not_mem_nil, or_false] at hn
  rcases hn with rfl | rfl | rfl | rfl
  · exact e.isLaid_record (by decide) (hc.row hw) (hdocumentation _ fun _ => rfl)
  · exact e.isLaid_record (by decide) (hc.insert hw) (hdocumentation _ hinsert)
  · exact e.isLaid_record (by decide) (hc.update hw) (hdocumentation _ hupdate)
  · exact hkeys

theorem isLaid_composite {x : Composite} (h : x.InLines) (hw : ∀ m ∈ x.members, m.isWellNamed = true) :
    (e.composite c x).IsLaid := by
  refine isLaid_braced h.key (.inr (Layout.isLaid_joined (by decide) (fun e => h.ne_nil (List.map_eq_nil_iff.mp e)) ?_))
  intro n hn
  obtain ⟨m, hm, rfl⟩ := List.mem_map.mp hn
  have hname := (Bool.and_eq_true_iff.mp (hw m hm)).1
  refine Layout.isLaid_before (Text.isLine_spaces 8)
    (Comment.isLaid_shown _ (Comment.isLaid_ofLines (h.members m hm))) (.inLine ?_ (hc.memberType (hw m hm)))
  exact ((Text.isLine_spaces 8).append (Json.isLine_display_identifier hname)).append (by decide)

end

theorem isLaid_enum (e : Emission) {x : Enum} (h : x.InLines) : (e.enum x).IsLaid := by
  have hunion : IsLaid (variantUnion x.variants) := by
    refine isLaid_unionType (fun e => h.ne_nil (List.map_eq_nil_iff.mp e)) fun t ht => ?_
    obtain ⟨v, hv, rfl⟩ := List.mem_map.mp ht
    exact Json.isLaid_written (h.names v hv)
  exact Layout.isLaid_before (Text.isLine_spaces 6) (Comment.isLaid_shown _ (Comment.isLaid_ofEnum h))
    (.inLine (((Text.isLine_spaces 6).append h.key).append (by decide)) hunion)

/-! ## the output -/

theorem isLaid_entries {α : Type} {sep : Text} (hsep : Style.IsSeparator sep) {entry : α → Layout} {xs : List α}
    (h : ∀ x ∈ xs, (entry x).IsLaid) : (entries sep (xs.map entry)).IsLaid := by
  unfold entries
  split
  · exact .inLine (Text.isLine_spaces 6) (by decide)
  · rename_i hne
    refine Layout.isLaid_joined hsep (List.isEmpty_eq_false_iff.mp (Bool.not_eq_true _ ▸ hne)) fun n hn => ?_
    obtain ⟨x, hx, rfl⟩ := List.mem_map.mp hn
    exact h x hx

theorem isLaid_sections {e : Emission} (hscalars : ∀ x, IsLaid (e.scalars x)) {o : Outline} (hk : o.Keyed)
    (hw : o.WellNamed) (h : o.InLines) : ∀ n ∈ e.sections o, n.IsLaid := by
  have hc : (e.classifierOf o).Ensures IsLaid :=
    Classifier.ensures_isLaid hscalars (Key.isLine_of_isIdentifier hk.isIdentifier_name)
  intro n hn
  simp only [sections, List.mem_cons, List.not_mem_nil, or_false] at hn
  rcases hn with rfl | rfl | rfl | rfl | rfl
  · exact isLaid_braced (by decide) (.inr (isLaid_entries (by decide) fun t ht =>
      e.isLaid_sheet hc (h.tables t ht) (hw.columns t ht)))
  · exact isLaid_braced (by decide) (.inr (IsLaid.inLine (Text.isLine_spaces 6) (by decide)))
  · exact isLaid_braced (by decide) (.inr (IsLaid.inLine (Text.isLine_spaces 6) (by decide)))
  · exact isLaid_braced (by decide) (.inr (isLaid_entries (by decide) fun x hx => e.isLaid_enum (h.enums x hx)))
  · exact isLaid_braced (by decide) (.inr (isLaid_entries (by decide) fun x hx =>
      e.isLaid_composite hc (h.composites x hx) (hw.members x hx)))

/-- the output is in the built-in style, but for one more line feed at its end -/
theorem isTidy_page {e : Emission} (hscalars : ∀ x, IsLaid (e.scalars x)) {o : Outline} (hk : o.Keyed)
    (hw : o.WellNamed) (h : o.InLines) : ∃ u, (e.page o).text = u ++ ['\n'] ∧ Style.IsTidy u := by
  obtain ⟨u, hu, hdeclarations⟩ := Accessors.exists_text
  have hkey : IsLine o.key := by
    rw [hk.key]
    exact Key.isLine_ofName (by decide)
  have hblock : (braced schemaIndent o.key (.stacked (e.sections o))).IsLaid := isLaid_braced hkey
    (.inr (Layout.isLaid_joined (by decide) (List.cons_ne_nil _ _) (isLaid_sections hscalars hk hw h)))
  have hdatabase : (Layout.block "export type Database = \x7b"
      (braced schemaIndent o.key (.stacked (e.sections o))) "\x7d").IsLaid :=
    Layout.isLaid_block (by decide) (.inr hblock) (by decide)
  have hbody : IsLaid (Accessors.jsonAlias ++ ['\n', '\n'] ++ _ ++ ['\n', '\n', '\n'] ++ u) :=
    (Accessors.isLaid_jsonAlias.between (by decide) hdatabase).between (by decide) hdeclarations
  refine ⟨_, ?_, hbody.isTidy⟩
  rw [page, text_frame, hu]
  simp [Layout.text]

end Emission

/-! ## what is asked of a model -/

/-- are the name, the target and the columns of a relation texts in which no line ends? -/
def Shape.namesLines : Shape → Bool
  | .relation r =>
    r.name.isLine && decide (IsLine r.target) && r.columns.all Json.isLine && r.referenced.all Json.isLine
  | _ => true

/-- are the names of tables, enums, variants and composite types, and those in relations, texts in which no line
ends? -/
def Schema.namesLines (s : Schema) : Bool :=
  (s.tables.all fun t => decide (IsLine t.name) && t.fields.all fun f => f.shape.namesLines)
    && (s.enums.all fun x => decide (IsLine x.name) && x.variants.all fun v => v.name.isLine)
    && s.composites.all fun x => decide (IsLine x.name)

namespace Json

/-- is the documentation of a value absent, null or a text? -/
def documentsText (v : Json) : Bool := v.mayHave "documentation" isText

/-- does every element of a member, if it has any, pass a test? -/
def everyAt (key : Text) (test : Json → Bool) (v : Json) : Bool :=
  match v.elementsAt key with
  | .ok items => items.all test
  | .error _ => true

/-- is the documentation of all tables and their fields, of all enums and their variants, and of all members of composite
types absent, null or a text? -/
def documentsTexts (v : Json) : Bool :=
  v.everyAt "models" (fun t => t.documentsText && t.everyAt "fields" documentsText)
    && v.everyAt "enums" (fun x => x.documentsText && x.everyAt "values" documentsText)
    && v.everyAt "types" fun x => x.everyAt "fields" documentsText

theorem gives_elementsAt {key : Text} {test : Json → Bool} {v : Json} (h : v.everyAt key test = true) :
    Gives (v.elementsAt key) fun xs => ∀ x ∈ xs, test x = true := by
  intro xs hxs
  rw [everyAt, hxs] at h
  exact List.all_eq_true.mp h

theorem gives_lookup {v : Json} (h : v.documentsText = true) :
    Gives (v.lookup "documentation") fun w => ∀ x ∈ w, x.isNull = true ∨ x.isText = true := by
  cases v with
  | object members =>
    refine .ok fun x hx => Bool.or_eq_true_iff.mp ?_
    rw [documentsText, mayHave, show (object members).get? "documentation" = some x from hx] at h
    exact h
  | null | bool | int | float | text | list => exact .error

end Json

/-! ## documentation -/

theorem Documentation.inLines_ofJson {w : Option Json} (h : ∀ x ∈ w, x.isNull = true ∨ x.isText = true) :
    Gives (ofJson w) fun ls => ∀ l ∈ ls, IsLine l := by
  cases w with
  | none => exact .ok nofun
  | some x =>
    cases x with
    | null => exact .ok nofun
    | text t => exact .ok fun l => Documentation.isLine_of_mem_ofText
    | bool | int | float | list | object => rcases h _ rfl with h | h <;> cases h

/-- no line ends in the documentation of a schema -/
structure Schema.InLines (s : Schema) : Prop where
  tables : ∀ t ∈ s.tables, (∀ l ∈ t.documentation, IsLine l) ∧ ∀ f ∈ t.fields, ∀ l ∈ f.documentation, IsLine l
  enums : ∀ x ∈ s.enums, (∀ l ∈ x.documentation, IsLine l) ∧ ∀ v ∈ x.variants, ∀ l ∈ v.documentation, IsLine l
  composites : ∀ x ∈ s.composites, ∀ m ∈ x.members, ∀ l ∈ m.documentation, IsLine l

theorem Field.inLines_ofJson {raw : Json} (h : raw.documentsText = true) :
    Gives (Field.ofJson raw) fun f => ∀ l ∈ f.documentation, IsLine l := by
  refine (Gives.trivial _).bind fun kind _ => (Gives.trivial _).bind fun type _ => ?_
  refine (Gives.trivial _).bind fun relation _ => (Gives.trivial _).bind fun flag _ => ?_
  refine (Gives.trivial _).bind fun default _ => (Gives.trivial _).bind fun name _ => ?_
  refine (Gives.trivial _).bind fun isRequired _ => (Gives.trivial _).bind fun isGenerated _ => ?_
  refine (Gives.trivial _).bind fun isList _ => (Json.gives_lookup h).bind fun lines hlines => ?_
  refine (Documentation.inLines_ofJson hlines).bind fun documentation hdocumentation => ?_
  exact (Gives.trivial _).bind fun shape _ => .ok hdocumentation

theorem Table.inLines_ofJson {raw : Json} (h : (raw.documentsText && raw.everyAt "fields" Json.documentsText) = true) :
    Gives (Table.ofJson raw) fun t =>
      (∀ l ∈ t.documentation, IsLine l) ∧ ∀ f ∈ t.fields, ∀ l ∈ f.documentation, IsLine l := by
  obtain ⟨hd, hf⟩ := Bool.and_eq_true_iff.mp h
  refine (Gives.trivial _).bind fun raw' _ => (Gives.trivial _).bind fun name _ => ?_
  refine (Json.gives_elementsAt hf).bind fun xs hxs => ?_
  refine (Gives.mapM fun x hx => Field.inLines_ofJson (hxs x hx)).bind fun fields hfields => ?_
  refine (Json.gives_lookup hd).bind fun lines hlines => ?_
  exact (Documentation.inLines_ofJson hlines).bind fun documentation hdocumentation => .ok ⟨hdocumentation, hfields⟩

theorem Variant.inLines_ofJson {raw : Json} (h : raw.documentsText = true) :
    Gives (Variant.ofJson raw) fun v => ∀ l ∈ v.documentation, IsLine l := by
  refine (Gives.trivial _).bind fun name _ => (Json.gives_lookup h).bind fun lines hlines => ?_
  exact (Documentation.inLines_ofJson hlines).bind fun documentation hdocumentation => .ok hdocumentation

theorem Enum.inLines_ofJson {raw : Json} (h : (raw.documentsText && raw.everyAt "values" Json.documentsText) = true) :
    Gives (Enum.ofJson raw) fun x =>
      (∀ l ∈ x.documentation, IsLine l) ∧ ∀ v ∈ x.variants, ∀ l ∈ v.documentation, IsLine l := by
  obtain ⟨hd, hv⟩ := Bool.and_eq_true_iff.mp h
  refine (Json.gives_elementsAt hv).bind fun xs hxs => ?_
  refine (Gives.mapM fun x hx => Variant.inLines_ofJson (hxs x hx)).bind fun variants hvariants => ?_
  refine (Gives.trivial _).bind fun raw' _ => (Gives.trivial _).bind fun name _ => ?_
  refine (Json.gives_lookup hd).bind fun lines hlines => ?_
  exact (Documentation.inLines_ofJson hlines).bind fun documentation hdocumentation => .ok ⟨hdocumentation, hvariants⟩

theorem Member.inLines_ofJson {raw : Json} (h : raw.documentsText = true) :
    Gives (Member.ofJson raw) fun m => ∀ l ∈ m.documentation, IsLine l := by
  have hrest : ∀ type : Option Field, Gives
      (do let name ← raw.demand "name"
          let documentation ← Documentation.ofJson (← raw.lookup "documentation")
          pure ({ name, type, documentation } : Member)) fun m => ∀ l ∈ m.documentation, IsLine l := by
    intro type
    refine (Gives.trivial _).bind fun name _ => (Json.gives_lookup h).bind fun lines hlines => ?_
    exact (Documentation.inLines_ofJson hlines).bind fun documentation hdocumentation => .ok hdocumentation
  unfold Member.ofJson
  refine (Gives.trivial _).bind fun type _ => ?_
  dsimp only
  split
  · exact (Gives.trivial _).bind fun type _ => hrest type
  · exact hrest none

theorem Composite.inLines_ofJson {raw : Json} (h : raw.everyAt "fields" Json.documentsText = true) :
    Gives (Composite.ofJson raw) fun x => ∀ m ∈ x.members, ∀ l ∈ m.documentation, IsLine l := by
  refine (Json.gives_elementsAt h).bind fun xs hxs => ?_
  refine (Gives.mapM fun x hx => Member.inLines_ofJson (hxs x hx)).bind fun members hmembers => ?_
  exact (Gives.trivial _).bind fun raw' _ => (Gives.trivial _).bind fun name _ => .ok hmembers

theorem Schema.inLines_ofJson {datamodel : Json} (h : datamodel.documentsTexts = true) :
    Gives (Schema.ofJson datamodel) Schema.InLines := by
  rw [Json.documentsTexts, Bool.and_eq_true, Bool.and_eq_true] at h
  obtain ⟨⟨hmodels, henums⟩, htypes⟩ := h
  refine (Json.gives_elementsAt hmodels).bind fun models hm => ?_
  refine (Gives.mapM fun x hx => Table.inLines_ofJson (hm x hx)).bind fun tables ht => ?_
  refine (Json.gives_elementsAt henums).bind fun xs hxs => ?_
  refine (Gives.mapM fun x hx => Enum.inLines_ofJson (hxs x hx)).bind fun enums he => ?_
  refine (Json.gives_elementsAt htypes).bind fun types hy => ?_
  refine (Gives.mapM fun x hx => Composite.inLines_ofJson (hy x hx)).bind fun composites hc => ?_
  exact .ok ⟨ht, he, hc⟩

/-! ## outlines -/

theorem Schema.InLines.outline {s : Schema} {o : Outline} (hs : s.InLines) (hk : s.Keyed) (hn : s.namesLines = true)
    (h : s.outline = .ok o) : o.InLines := by
  rw [Schema.namesLines, Bool.and_eq_true, Bool.and_eq_true, List.all_eq_true, List.all_eq_true, List.all_eq_true] at hn
  obtain ⟨⟨htables, henums⟩, hcomposites⟩ := hn
  refine ⟨fun t ht => ?_, fun x hx => ?_, fun x hx => ?_⟩
  · obtain ⟨u, hu, e⟩ := Schema.exists_table h ht
    obtain ⟨hname, hfields⟩ := Bool.and_eq_true_iff.mp (htables u hu)
    obtain ⟨_, hkey, hd, _, _⟩ := Table.outline_eq_ok e
    refine ⟨?_, hd ▸ (hs.tables u hu).1, fun f hf => ?_, fun r hr => ?_⟩
    · rw [hkey, hk.tables u hu]
      exact Key.isLine_ofName (of_decide_eq_true hname)
    · exact (hs.tables u hu).2 f (List.mem_filter.mp ((Table.columns_outline e).mem_iff.mp hf)).1
    · obtain ⟨f, hf, l, hl, rfl⟩ := Table.exists_relation e hr
      have hshape := List.all_eq_true.mp hfields f hf
      rw [hl, Shape.namesLines, Bool.and_eq_true, Bool.and_eq_true, Bool.and_eq_true, List.all_eq_true,
        List.all_eq_true] at hshape
      obtain ⟨⟨⟨hrelation, htarget⟩, hcolumns⟩, hreferenced⟩ := hshape
      exact ⟨hrelation, of_decide_eq_true htarget, hcolumns, hreferenced⟩
  · obtain ⟨hx, hne⟩ := (Schema.mem_enums h).mp hx
    obtain ⟨hname, hvariants⟩ := Bool.and_eq_true_iff.mp (henums x hx)
    refine ⟨?_, (hs.enums x hx).1, hne, List.all_eq_true.mp hvariants, (hs.enums x hx).2⟩
    rw [hk.enums x hx]
    exact Key.isLine_ofName (of_decide_eq_true hname)
  · obtain ⟨hx, hne⟩ := (Schema.mem_composites h).mp hx
    refine ⟨?_, hne, hs.composites x hx⟩
    rw [hk.composites x hx]
    exact Key.isLine_ofName (of_decide_eq_true (hcomposites x hx))

/-! ## the output -/

theorem ScalarTable.isLaid_standard (x : Scalar) : Style.IsLaid (ScalarTable.standard x) := by
  cases x <;> decide

theorem Formatter.Useless.chosen_eq {r : ProgramResult} (h : Useless r) (t : Text) : chosen t r = Style.tidied t := by
  cases h with
  | notStarted | timedOut | killed => rfl
  | @failed status hstatus =>
    cases status with
    | zero => exact absurd rfl hstatus
    | succ n => rfl
  | blank hd hblank status =>
    cases status with
    | zero =>
      rw [chosen, hd]
      exact if_pos hblank
    | succ n => rfl

/-- **The output is in the built-in style** but for one more line feed at its end.  That line feed is all that the
built-in style changes, and all that formatting changes with a formatter that gives nothing of use; it then gives a text
exactly if nothing is in its way. -/
theorem tidied_generateTypes {datamodel : Json} {documentation : Bool} {t : Text} {s : Schema}
    (h : generateTypes datamodel documentation = .ok t) (hs : Schema.ofJson datamodel = .ok s)
    (hn : s.isWellNamed = true) (hl : s.namesLines = true) (hd : datamodel.documentsTexts = true) :
    t = Style.tidied t ++ ['\n']
    ∧ ∀ (f : FormatterSettings) (σ : Session) (r : ProgramResult) (files : Files), f.enabled = true →
      σ.host.run σ.files f.command t.toBytes f.timeout = (r, files) → Formatter.Useless r →
      ∀ u, ((Formatter.formatted f t).run σ).1 = .ok u ↔ Formatter.Smooth f t r ∧ t = u ++ ['\n'] := by
  obtain ⟨s', o, hs', ho, e⟩ := generateTypes_eq_ok_iff.mp h
  cases hs.symm.trans hs'
  have hk := Schema.keyed_ofJson hs
  obtain ⟨v, hv, htidy⟩ := Emission.isTidy_page (e := { documentation }) ScalarTable.isLaid_standard (hk.outline ho)
    (Schema.wellNamed_outline ho hn) ((Schema.inLines_ofJson hd s hs).outline hk hl ho)
  have htidied : Style.tidied t = v := by
    rw [← e, hv]
    exact htidy.tidied_append 1
  have ht : t = Style.tidied t ++ ['\n'] := by rw [htidied, ← hv, e]
  refine ⟨ht, fun f σ r files hf hrun hr u => ?_⟩
  have hu : t = u ++ ['\n'] ↔ u = Style.tidied t := by
    conv_lhs => lhs; rw [ht]
    rw [List.append_left_inj, eq_comm]
  rw [(Formatter.formatted_ends hf hrun).eq_ok_iff, hr.chosen_eq, hu]

/-- a model with white space at the ends of names and of lines of documentation, lines that end in many ways, and a table
without columns -/
def Json.spaced : Json :=
  .object
    [("models", .list
      [.object [("name", "A "), ("documentation", "a \r\n\n\u2028 b\t\u0085"),
        ("fields", .list
          [.object [("name", "e"), ("kind", "enum"), ("type", "E"), ("documentation", "\x0b */ \x1c")],
           .object [("name", "r"), ("kind", "object"), ("type", "\u00a0"), ("relationName", "R "),
            ("relationFromFields", .list ["x "]), ("relationToFields", .list [" \\"])]])],
       .object [("name", "B"), ("documentation", .null)]]),
     ("enums", .list [.object
      [("name", "E\t"), ("documentation", "e\n\n f"),
       ("values", .list [.object [("name", "V "), ("documentation", "\nv \n\n w")]])]]),
     ("types", .list [.object
      [("name", "T\u3000"), ("fields", .list
        [.object [("name", "m")],
         .object [("name", "n"), ("kind", "object"), ("type", "B"), ("relationName", "R"), ("documentation", " ")]])]])]

theorem tidied_generateTypes_spaced : ∃ t s, generateTypes .spaced true = .ok t ∧ Schema.ofJson .spaced = .ok s
    ∧ s.isWellNamed = true ∧ s.namesLines = true ∧ Json.spaced.documentsTexts = true ∧ t = Style.tidied t ++ ['\n']
    ∧ ∃ σ : Session, ∃ r files, σ.host.run σ.files standardFormatter t.toBytes standardTimeout = (r, files)
      ∧ Formatter.Useless r ∧ ((Formatter.formatted { enabled := true } t).run σ).1 = .ok (Style.tidied t) := by
  have h : ∃ t, generateTypes .spaced true = .ok t := ⟨_, rfl⟩
  have hs : ∃ s, Schema.ofJson .spaced = .ok s ∧ s.isWellNamed = true ∧ s.namesLines = true :=
    ⟨_, rfl, rfl, rfl⟩
  have hd : Json.spaced.documentsTexts = true := rfl
  obtain ⟨t, ht⟩ := h
  obtain ⟨s, hs, hn, hl⟩ := hs
  obtain ⟨htidied, hformatted⟩ := tidied_generateTypes ht hs hn hl hd
  have hsmooth : ∀ e, Formatter.Smooth { enabled := true } t (.notStarted e) := fun e => ⟨by decide, nofun, nofun⟩
  refine ⟨t, s, ht, hs, hn, hl, hd, htidied, {}, _, _, rfl, .notStarted _, ?_⟩
  exact (hformatted _ {} _ _ rfl rfl (.notStarted _) _).mpr ⟨hsmooth _, htidied⟩

end DatabaseTypes
