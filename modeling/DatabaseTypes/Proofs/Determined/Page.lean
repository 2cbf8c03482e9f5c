import DatabaseTypes.Proofs.Determined

/-!
# What the output says

The output without comments determines what it says: a reader can tell from it the tables with their
records and foreign keys, the enums with their variants and the composite types with their members,
all of them in their order.

* `Content`                 what an output says
* `Json.content`            what the output for a model says
* `Emission.settles_page`   the output for an outline determines its content
* `content_eq_of_generateTypes`   the output for a model determines its content
-/

namespace DatabaseTypes

variable {α β : Type}

/-! ## contents -/

/-- a member of a record -/
structure Content.Column where
  name : Json
  isOptional : Bool
  type : Text

/-- a table: the records for reading, inserting and updating, and the foreign keys -/
structure Content.Table where
  name : Text
  row : List Content.Column
  insert : List Content.Column
  update : List Content.Column
  relationships : List Relationship

/-- an enum -/
structure Content.Enum where
  name : Text
  variants : List Json

/-- a composite type: the names of its members with their types -/
structure Content.Composite where
  name : Text
  members : List (Json × Text)

/-- what an output says, in its order -/
structure Content where
  tables : List Content.Table
  enums : List Content.Enum
  composites : List Content.Composite

def Projection.content (p : Projection) : Content.Column := ⟨p.name, p.isOptional, p.type⟩

def Outline.Table.content (c : Classifier) (t : Outline.Table) : Content.Table :=
  { name := t.name
    row := (t.columns.map c.row).map Projection.content
    insert := (t.columns.map c.insert).map Projection.content
    update := (t.columns.map c.update).map Projection.content
    relationships := t.relationships }

def Enum.content (x : Enum) : Content.Enum := ⟨x.name, x.variants.map Variant.name⟩

def Member.content (c : Classifier) (m : Member) : Json × Text := (m.name, c.memberType m.type)

def Composite.content (c : Classifier) (x : Composite) : Content.Composite :=
  ⟨x.name, x.members.map (Member.content c)⟩

/-- what the output for an outline says -/
def Emission.content (e : Emission) (o : Outline) : Content :=
  { tables := o.tables.map (Outline.Table.content (e.classifierOf o))
    enums := o.enums.map Enum.content
    composites := o.composites.map (Composite.content (e.classifierOf o)) }

/-- what the output for a model says -/
def Json.content (datamodel : Json) : Except Fault Content := do
  let s ← Schema.ofJson datamodel
  s.outline.map (Emission.content {})

/-! ## texts on one line -/

/-- a character that is no separator and ends no line -/
def isInline (c : Char) : Bool := c != ';' && c != ',' && c != '\n'

/-- a text of such characters -/
def Inline (t : Text) : Prop := ∀ c ∈ t, isInline c = true

theorem Inline.append {t u : Text} (ht : Inline t) (hu : Inline u) : Inline (t ++ u) :=
  List.forall_mem_append.mpr ⟨ht, hu⟩

theorem inline_constant {l : List Char} (h : l.all isInline = true) :
    Inline (String.ofList l).toList := by
  rw [String.toList_ofList]
  exact List.all_eq_true.mp h

theorem inline_identifier {t : Text} (h : Key.isIdentifier t = true) : Inline t := by
  intro c hc
  have ht := Key.isTail_of_mem h c hc
  have hne : ∀ d, Key.isTail d = false → c ≠ d := fun d => Key.ne_of_isTail ht
  simp [isInline, hne ';' (by decide), hne ',' (by decide), hne '\n' (by decide)]

/-- every type stands on one line -/
theorem ensures_inline {c : Classifier} (hc : Key.isIdentifier c.schemaName = true)
    (hscalars : ∀ x, Inline (c.scalars x)) : c.Ensures Inline where
  scalar := hscalars
  unknown := inline_constant rfl
  never := inline_constant rfl
  reference he hn := by
    unfold Classifier.reference
    exact ((((((inline_constant rfl).append (inline_identifier hc)).append
      (inline_constant rfl)).append (inline_identifier he)).append (inline_constant rfl)).append
        (inline_identifier hn)).append (inline_constant rfl)
  identifier h := inline_identifier h
  orNull h := (h.append (inline_constant rfl)).append (inline_constant rfl)

theorem inline_standard (x : Scalar) : Inline (ScalarTable.standard x) := by
  cases x <;> exact inline_constant rfl

/-- a text on one line settles itself before the end of the line -/
theorem settles_inline :
    Settles Inline (fun s => ∀ c ∈ s.head?, isInline c = false) id id :=
  settles_span isInline

theorem head?_of_prefix_cons {c : Char} {u s : Text} (h : c :: u <+: s) : s.head? = some c := by
  obtain ⟨t, rfl⟩ := h
  rfl

/-- what begins with a character that does not stand within a line -/
theorem not_inline_of_prefix_cons {c : Char} (hc : isInline c = false) {u s : Text} (h : c :: u <+: s) :
    ∀ d ∈ s.head?, isInline d = false := by
  rw [head?_of_prefix_cons h]
  rintro d ⟨⟩
  exact hc

namespace Emission

/-! ## records -/

/-- the mark of a member that may be left out settles itself before a colon -/
theorem settles_mark : Settles (fun _ => True) (·.head? = some ':')
    (fun b : Bool => (if b then "?" else "").toList) id := by
  intro b d s t _ _ hs ht e
  cases b <;> cases d
  · exact ⟨rfl, e⟩
  · rw [show s = '?' :: t from e] at hs
    cases hs
  · rw [← show '?' :: s = t from e] at ht
    cases ht
  · exact ⟨rfl, (List.cons.inj e).2⟩

/-- a name and a type -/
theorem settles_named : Settles
    (fun x : Json × Bool × Text => x.1.isIdentifier = true ∧ Inline x.2.2)
    (fun s => ∀ c ∈ s.head?, isInline c = false)
    (fun x => x.1.display ++ (if x.2.1 then "?" else "").toList ++ ": " ++ x.2.2) id := by
  rintro ⟨v, b, u⟩ ⟨w, d, u'⟩ s t ⟨hv, hu⟩ ⟨hw, hu'⟩ hs ht e
  obtain ⟨name, rfl, hi⟩ := Json.exists_of_isIdentifier hv
  obtain ⟨name', rfl, hi'⟩ := Json.exists_of_isIdentifier hw
  simp only [List.append_assoc] at e
  have hcolon : ∀ {r : Text}, ((": ".toList ++ r).head?) = some ':' := rfl
  have hmark : ∀ (b : Bool) {r : Text},
      ∀ c ∈ ((if b then "?" else "").toList ++ (": ".toList ++ r)).head?, Key.isTail c = false := by
    rintro (_ | _) r c ⟨⟩ <;> rfl
  obtain ⟨hname, e⟩ := settles_identifier hi hi' (hmark b) (hmark d) e
  obtain ⟨hb, e⟩ := settles_mark trivial trivial hcolon hcolon e
  obtain ⟨htype, hr⟩ := settles_inline hu hu' hs ht (List.append_cancel_left e)
  cases hname
  cases hb
  cases htype
  exact ⟨rfl, hr⟩

theorem settles_memberLine : Settles
    (fun p : Projection => p.name.isIdentifier = true ∧ Inline p.type)
    (fun s => [';', '\n'] <+: s ∨ '\n' :: (recordIndent ++ "\x7d") <+: s)
    memberLine Projection.content := by
  have hends : ∀ {s : Text}, [';', '\n'] <+: s ∨ '\n' :: (recordIndent ++ "\x7d") <+: s →
      ∀ c ∈ s.head?, isInline c = false := by
    rintro s (h | h)
    · exact not_inline_of_prefix_cons rfl h
    · exact not_inline_of_prefix_cons rfl h
  intro p q s t hp hq hs ht e
  unfold memberLine at e
  simp only [List.append_assoc] at e
  have e := List.append_cancel_left e
  have h := settles_named (a := (p.name, p.isOptional, p.type)) (b := (q.name, q.isOptional, q.type))
    hp hq (hends hs) (hends ht) (by simpa only [List.append_assoc] using e)
  obtain ⟨h, e⟩ := h
  obtain ⟨hn, hb, ht⟩ : p.name = q.name ∧ p.isOptional = q.isOptional ∧ p.type = q.type := by
    simpa using h
  exact ⟨by rw [Projection.content, Projection.content, hn, hb, ht], e⟩

/-- a piece between two lines -/
theorem settles_block {valid : α → Prop} {f : α → Layout} {g : α → β} (opening closing : Text)
    (h : Settles valid ('\n' :: closing <+: ·) (fun a => (f a).text) g) :
    Settles valid (fun _ => True) (fun a => (Layout.block opening (f a) closing).text) g := by
  intro a b s t ha hb _ _ e
  simp only [Layout.text, List.append_assoc, List.append_cancel_left_eq] at e
  obtain ⟨hg, e⟩ := h ha hb ⟨s, by simp⟩ ⟨t, by simp⟩ e
  simp only [List.append_cancel_left_eq] at e
  exact ⟨hg, e⟩

/-- layouts with a separator between them -/
theorem settles_layouts {valid : α → Prop} {k : α → Layout} {g : α → β} (sep ending : Text)
    (hk : Settles valid (fun s => sep <+: s ∨ ending <+: s) (fun a => (k a).text) g)
    (hsep : ∀ a s t, valid a → sep ++ ((k a).text ++ s) ≠ ending ++ t)
    (hend : ∀ a s t, valid a → (k a).text ++ s ≠ ending ++ t) :
    Settles (fun as => ∀ a ∈ as, valid a) (ending <+: ·)
      (fun as => (Layout.joined (as.map k) sep).text) (List.map g) := by
  refine (Settles.joined sep ending hk hsep hend).congr fun as => ?_
  rw [Layout.text, Layout.texts_eq_map, List.map_map]
  rfl

theorem settles_record (e : Emission) (title : Text) : Settles
    (fun ps : List Projection => ∀ p ∈ ps, p.name.isIdentifier = true ∧ Inline p.type)
    (fun _ => True) (fun ps => (e.silent.record title ps).text) (List.map Projection.content) :=
  settles_block _ (recordIndent ++ "\x7d") (settles_layouts [';', '\n'] _ (k := e.silent.member)
    settles_memberLine (fun _ _ _ _ h => by cases (List.cons.inj h).1)
    (fun _ _ _ _ h => by cases (List.cons.inj h).1))

/-! ## foreign keys -/

theorem settles_bool : Settles (fun _ => True) (fun _ => True)
    (fun b : Bool => (if b then "true" else "false").toList) id := by
  intro b d s t _ _ _ _ e
  cases b <;> cases d
  · exact ⟨rfl, List.append_cancel_left e⟩
  · cases (List.cons.inj e).1
  · cases (List.cons.inj e).1
  · exact ⟨rfl, List.append_cancel_left e⟩

theorem text_relationship (r : Relationship) : (relationship r).text
    = memberIndent ++ "\x7b" ++ ['\n'] ++ relationshipIndent ++ "foreignKeyName: "
      ++ (r.name.written .plain ++ (";" ++ ['\n'] ++ relationshipIndent ++ "columns: "
      ++ ((Json.list r.columns).written .compact ++ (";" ++ ['\n'] ++ relationshipIndent ++ "isOneToOne: "
      ++ ((if r.isOneToOne then "true" else "false").toList ++ (";" ++ ['\n'] ++ relationshipIndent
      ++ "referencedRelation: " ++ (Json.literal false r.target ++ (";" ++ ['\n'] ++ relationshipIndent
      ++ "referencedColumns: " ++ ((Json.list r.referenced).written .compact
      ++ (['\n'] ++ memberIndent ++ "\x7d")))))))))) := by
  simp only [relationship, relationshipLines, Layout.text, List.map_cons, List.map_nil,
    Text.joined_cons_cons, Text.joined_single, List.append_assoc]

theorem settles_relationship : Settles Relationship.Textual (fun _ => True)
    (fun r => (relationship r).text) id := by
  rintro ⟨name, columns, oneToOne, target, referenced⟩ ⟨name', columns', oneToOne', target', referenced'⟩
    s t hr hr' _ _ e
  simp only [text_relationship, List.append_assoc, List.append_cancel_left_eq] at e
  obtain ⟨h₁, e⟩ := settles_text _ rfl hr.name hr'.name trivial trivial e
  simp only [List.append_cancel_left_eq] at e
  obtain ⟨h₂, e⟩ := settles_texts hr.columns hr'.columns trivial trivial e
  simp only [List.append_cancel_left_eq] at e
  obtain ⟨h₃, e⟩ := settles_bool trivial trivial trivial trivial e
  simp only [List.append_cancel_left_eq] at e
  obtain ⟨h₄, e⟩ := settles_literal trivial trivial trivial trivial e
  simp only [List.append_cancel_left_eq] at e
  obtain ⟨h₅, hr⟩ := settles_texts hr.referenced hr'.referenced trivial trivial e
  simp only [List.append_cancel_left_eq] at hr
  cases h₁
  cases h₂
  cases h₃
  cases h₄
  cases h₅
  exact ⟨rfl, hr⟩

theorem settles_relationships : Settles (fun rs : List Relationship => ∀ r ∈ rs, r.Textual)
    (fun _ => True) (fun rs => (relationships rs).text) id := by
  have h := settles_layouts [',', '\n'] ('\n' :: (recordIndent ++ "]"))
    (settles_relationship.anywhere _) (fun _ _ _ _ h => by cases (List.cons.inj h).1)
    (fun _ _ _ _ h => by cases (List.cons.inj h).1)
  exact (settles_block _ _ h).imp fun rs rs' h => by simpa using h

/-! ## entries -/

/-- a block under a key -/
theorem settles_braced {valid : α → Prop} {body : α → Layout} {g : α → β} (indent : Text)
    (key name : α → Text) (hkey : ∀ a, valid a → key a = Key.ofName (name a))
    (h : Settles valid ('\n' :: (indent ++ "\x7d") <+: ·) (fun a => (body a).text) g) :
    Settles valid (fun _ => True) (fun a => (braced indent (key a) (body a)).text)
      fun a => (name a, g a) := by
  intro a b s t ha hb _ _ e
  simp only [braced, Layout.text, List.append_assoc, List.append_cancel_left_eq, hkey a ha,
    hkey b hb] at e
  obtain ⟨hname, e⟩ := settles_key trivial trivial rfl rfl e
  simp only [List.append_cancel_left_eq] at e
  obtain ⟨hg, e⟩ := h ha hb ⟨s, by simp⟩ ⟨t, by simp⟩ e
  simp only [List.append_cancel_left_eq] at e
  exact ⟨Prod.ext hname hg, e⟩

/-- what the output shows of a table determines it -/
structure Shown (t : Outline.Table) : Prop where
  key : t.key = Key.ofName t.name
  columns : ∀ f ∈ t.columns, f.name.isIdentifier = true ∧ f.shape.namesIdentifiers = true
  relationships : ∀ r ∈ t.relationships, r.Textual

section
variable (e : Emission) {c : Classifier} (hc : c.Ensures Inline)
include hc

theorem settles_sheet : Settles Shown (fun _ => True) (fun t => (e.silent.sheet c t).text)
    (Outline.Table.content c) := by
  have hrow := ((e.settles_record "Row").comap fun t : Outline.Table => t.columns.map c.row).mono
    (fun t (ht : Shown t) => hc.row ht.columns) fun _ h => h
  have hinsert := ((e.settles_record "Insert").comap
    fun t : Outline.Table => t.columns.map c.insert).mono
      (fun t (ht : Shown t) => hc.insert ht.columns) fun _ h => h
  have hupdate := ((e.settles_record "Update").comap
    fun t : Outline.Table => t.columns.map c.update).mono
      (fun t (ht : Shown t) => hc.update ht.columns) fun _ h => h
  have hkeys := (settles_relationships.comap Outline.Table.relationships).mono
    (fun t (ht : Shown t) => ht.relationships) fun _ h => h
  have hbody : Settles Shown (fun _ => True)
      (fun t => (Layout.stacked
        [e.silent.record "Row" (t.columns.map c.row), e.silent.record "Insert" (t.columns.map c.insert),
         e.silent.record "Update" (t.columns.map c.update), relationships t.relationships]).text) _ :=
    (((hrow.line hinsert).line hupdate).line hkeys).congr fun t => by
      simp only [Layout.stacked, Layout.text, Layout.texts, Text.joined_cons_cons,
        Text.joined_single, List.append_assoc]
  have h := settles_braced entryIndent Outline.Table.key Outline.Table.name
    (fun t (ht : Shown t) => ht.key)
    (hbody.anywhere _)
  refine h.imp fun t u e => ?_
  simp only [Prod.mk.injEq, id] at e
  obtain ⟨hname, ⟨⟨hr, hi⟩, hu⟩, hk⟩ := e
  simp only [Outline.Table.content, hname, hr, hi, hu, hk]

omit hc in
theorem settles_variants : Settles (fun vs : List Variant => ∀ v ∈ vs, v.name.isText = true)
    (['\n'] <+: ·) variantUnion (List.map Variant.name) := by
  have h := ((settles_text .plain rfl).comap Variant.name).anywhere
    (fun s => [' ', '|', ' '] <+: s ∨ ['\n'] <+: s)
  exact h.joined _ _ (fun _ _ _ _ h => by cases (List.cons.inj h).1)
    fun v s t hv => append_ne_cons (Json.head?_written hv) (by decide) s t

omit hc in
theorem settles_enum : Settles
    (fun x : Enum => x.key = Key.ofName x.name ∧ ∀ v ∈ x.variants, v.name.isText = true)
    (['\n'] <+: ·) (fun x => (e.silent.enum x).text) Enum.content := by
  intro x y s t hx hy hs ht h
  have htext : ∀ x : Enum, (e.silent.enum x).text
      = entryIndent ++ x.key ++ ": " ++ variantUnion x.variants := fun _ => rfl
  simp only [htext, List.append_assoc, List.append_cancel_left_eq, hx.1, hy.1] at h
  obtain ⟨hname, h⟩ := settles_key trivial trivial rfl rfl h
  obtain ⟨hv, h⟩ := settles_variants hx.2 hy.2 hs ht (List.append_cancel_left h)
  exact ⟨by rw [Enum.content, Enum.content, hv, show x.name = y.name from hname], h⟩

theorem settles_compositeMember : Settles (fun m : Member => m.isWellNamed = true)
    (fun s => [',', '\n'] <+: s ∨ '\n' :: (entryIndent ++ "\x7d") <+: s)
    (fun m => (e.silent.compositeMember c m).text) (Member.content c) := by
  intro m n s t hm hn hs ht h
  have hends : ∀ {s : Text}, [',', '\n'] <+: s ∨ '\n' :: (entryIndent ++ "\x7d") <+: s →
      ∀ c ∈ s.head?, isInline c = false := by
    rintro s (h | h)
    · exact not_inline_of_prefix_cons rfl h
    · exact not_inline_of_prefix_cons rfl h
  have htext : ∀ m : Member, (e.silent.compositeMember c m).text
      = recordIndent ++ (m.name.display ++ (if false then "?" else "").toList ++ ": "
        ++ c.memberType m.type) := by
    intro m
    show recordIndent ++ m.name.display ++ ": " ++ c.memberType m.type = _
    simp
  have hname : ∀ {m : Member}, m.isWellNamed = true → m.name.isIdentifier = true := by
    intro m h
    rw [Member.isWellNamed, Bool.and_eq_true] at h
    exact h.1
  simp only [htext, List.append_assoc recordIndent, List.append_cancel_left_eq] at h
  obtain ⟨h, hr⟩ := settles_named (a := (m.name, false, c.memberType m.type))
    (b := (n.name, false, c.memberType n.type)) ⟨hname hm, hc.memberType hm⟩
    ⟨hname hn, hc.memberType hn⟩ (hends hs) (hends ht) h
  refine ⟨?_, hr⟩
  simp only [id, Prod.mk.injEq, true_and] at h
  rw [Member.content, Member.content, h.1, h.2]

theorem settles_composite : Settles
    (fun x : Composite => x.key = Key.ofName x.name ∧ ∀ m ∈ x.members, m.isWellNamed = true)
    (fun _ => True) (fun x => (e.silent.composite c x).text) (Composite.content c) := by
  have hlist := (settles_layouts [',', '\n'] _ (e.settles_compositeMember hc)
    (fun _ _ _ _ h => by cases (List.cons.inj h).1)
    (fun _ _ _ _ h => by cases (List.cons.inj h).1)).comap Composite.members
  have h := settles_braced entryIndent Composite.key Composite.name
    (fun x (hx : x.key = Key.ofName x.name ∧ ∀ m ∈ x.members, m.isWellNamed = true) => hx.1)
    (hlist.mono (fun _ hx => hx.2) fun _ h => h)
  refine h.imp fun x y e => ?_
  simp only [Prod.mk.injEq] at e
  rw [Composite.content, Composite.content, e.1, e.2]

end

/-! ## sections -/

theorem key_ne_bracket (name s t : Text) : Key.ofName name ++ s ≠ '[' :: t := by
  rw [Key.ofName]
  split
  · rename_i h
    obtain ⟨i, r, hi, _, rfl⟩ := Key.exists_of_isBare h
    obtain ⟨c, i, rfl, hc⟩ := Key.exists_cons_of_isIdentifier hi
    exact append_ne_cons rfl (Key.ne_of_isTail hc (by decide)) s t
  · exact append_ne_cons rfl (by decide) s t

/-- the entries of a section: each begins with a key at the indentation of entries -/
theorem settles_entries {valid : α → Prop} {k : α → Layout} {g : α → β} (sep ending : Text)
    (hk : Settles valid (fun s => sep <+: s ∨ ending <+: s) (fun a => (k a).text) g)
    (hkey : ∀ a, valid a → ∃ name r, (k a).text = entryIndent ++ (Key.ofName name ++ r))
    (hsep : Text.apart (sep ++ entryIndent) ending = true)
    (hend : Text.apart entryIndent ending = true) :
    Settles (fun as => ∀ a ∈ as, valid a) (ending <+: ·)
      (fun as => (entries sep (as.map k)).text) (List.map g) := by
  have hlist := settles_layouts sep ending hk
    (fun a s t ha e => by
      obtain ⟨name, r, h⟩ := hkey a ha
      rw [h, List.append_assoc, ← List.append_assoc] at e
      exact Text.ne_of_apart hsep _ _ e)
    (fun a s t ha e => by
      obtain ⟨name, r, h⟩ := hkey a ha
      rw [h, List.append_assoc] at e
      exact Text.ne_of_apart hend _ _ e)
  -- a section with an entry is no section without entries
  have hne : ∀ a as s t, valid a →
      (entries sep ((a :: as).map k)).text ++ s ≠ (entries sep (([] : List α).map k)).text ++ t := by
    intro a as s t ha e
    obtain ⟨name, r, h⟩ := hkey a ha
    have hcons : (entries sep ((a :: as).map k)).text
        = (k a).text ++ (as.map fun a => (k a).text).flatMap (sep ++ ·) := by
      show (Layout.joined ((a :: as).map k) sep).text = _
      rw [Layout.text, Layout.texts_eq_map, List.map_map, List.map_cons,
        Text.joined_cons_eq_flatMap]
      rfl
    have hnil : (entries sep (([] : List α).map k)).text = entryIndent ++ emptySection := rfl
    rw [hcons, hnil, h] at e
    simp only [List.append_assoc, List.append_cancel_left_eq] at e
    exact key_ne_bracket name _ _ e
  intro as bs s t has hbs hs ht e
  cases as with
  | nil =>
    cases bs with
    | nil => exact ⟨rfl, List.append_cancel_left e⟩
    | cons b bs => exact absurd e.symm (hne b bs _ _ (hbs b List.mem_cons_self))
  | cons a as =>
    cases bs with
    | nil => exact absurd e (hne a as _ _ (has a List.mem_cons_self))
    | cons b bs => exact hlist has hbs hs ht e

/-! ## outputs -/

/-- an outline whose output determines what it says -/
structure Legible (o : Outline) : Prop where
  keyed : o.Keyed
  wellNamed : o.WellNamed
  textual : o.Textual

/-- the line that ends a section -/
def sectionEnd : Text := '\n' :: (sectionIndent ++ "\x7d")

/-- the output as its three sections and what stands between them -/
theorem text_page (e : Emission) (o : Outline) : (e.page o).text
    = ['\n'] ++ Accessors.jsonAlias ++ ['\n', '\n'] ++ "export type Database = ".toList
      ++ ['\x7b', '\n'] ++ (schemaIndent ++ o.key ++ ": \x7b") ++ ['\n']
      ++ (sectionIndent ++ "Tables" ++ ": \x7b") ++ ['\n']
      ++ ((entries ";\n" (o.tables.map (e.sheet (e.classifierOf o)))).text
      ++ (sectionEnd ++ (['\n'] ++ (placeholder "Views" "/* No support for views */").text ++ ['\n']
      ++ (placeholder "Functions" "/* No support for functions */").text ++ ['\n']
      ++ (sectionIndent ++ "Enums" ++ ": \x7b") ++ ['\n']
      ++ ((entries "\n" (o.enums.map e.enum)).text
      ++ (sectionEnd ++ (['\n'] ++ (sectionIndent ++ "CompositeTypes" ++ ": \x7b") ++ ['\n']
      ++ ((entries ",\n\n" (o.composites.map (e.composite (e.classifierOf o)))).text
      ++ (sectionEnd ++ (['\n'] ++ (schemaIndent ++ "\x7d") ++ ['\n', '\x7d', '\n', '\n', '\n']
      ++ Accessors.text ++ ['\n']))))))))) := by
  rw [page, text_frame]
  simp [sections, braced, Layout.stacked, Layout.text, Layout.texts, Text.joined, sectionEnd]

theorem exists_text_braced (indent title : Text) (body : Layout) :
    ∃ r, (braced indent title body).text = indent ++ (title ++ r) := by
  refine ⟨": \x7b" ++ (['\n'] ++ (body.text ++ (['\n'] ++ (indent ++ "\x7d")))), ?_⟩
  simp only [braced, Layout.text, List.append_assoc]

/-- the same output without comments says the same -/
theorem settles_page (e : Emission) (hscalars : ∀ x, Inline (e.scalars x)) {o o' : Outline}
    (ho : Legible o) (ho' : Legible o') (h : (e.silent.page o).text = (e.silent.page o').text) :
    e.content o = e.content o' := by
  have hkey : o.key = o'.key := ho.keyed.key.trans ho'.keyed.key.symm
  have hc : e.classifierOf o = e.classifierOf o' :=
    congrArg (Classifier.mk e.scalars) (ho.keyed.name.trans ho'.keyed.name.symm)
  have hi : (e.classifierOf o').Ensures Inline :=
    ensures_inline (c := e.classifierOf o') ho'.keyed.isIdentifier_name hscalars
  have htables := settles_entries [';', '\n'] sectionEnd
    ((e.settles_sheet hi).anywhere _)
    (fun t ht => by
      obtain ⟨r, hr⟩ := exists_text_braced entryIndent t.key (.stacked _)
      exact ⟨t.name, r, by rw [← ht.key]; exact hr⟩) rfl rfl
  have henums := settles_entries ['\n'] sectionEnd
    (e.settles_enum.mono (fun _ h => h) fun s hs => by
      rcases hs with hs | ⟨r, rfl⟩
      · exact hs
      · exact ⟨_, rfl⟩)
    (fun x hx => ⟨x.name, ": " ++ variantUnion x.variants, by
      rw [← hx.1, ← List.append_assoc, ← List.append_assoc]; rfl⟩) rfl rfl
  have hcomposites := settles_entries [',', '\n', '\n'] sectionEnd
    ((e.settles_composite hi).anywhere _)
    (fun x hx => by
      obtain ⟨r, hr⟩ := exists_text_braced entryIndent x.key (.joined _ _)
      exact ⟨x.name, r, by rw [← hx.1]; exact hr⟩) rfl rfl
  have hshown : ∀ {o : Outline}, Legible o → ∀ t ∈ o.tables, Shown t := fun ho t ht =>
    ⟨ho.keyed.tables t ht, ho.wellNamed.columns t ht, ho.textual.relationships t ht⟩
  simp only [text_page, hkey, List.append_assoc, List.append_cancel_left_eq] at h
  rw [show e.silent.classifierOf o = e.classifierOf o' from hc] at h
  obtain ⟨ht, h⟩ := htables (hshown ho) (hshown ho') ⟨_, rfl⟩ ⟨_, rfl⟩ h
  simp only [List.append_cancel_left_eq] at h
  obtain ⟨hx, h⟩ := henums
    (fun x hx => ⟨ho.keyed.enums x hx, ho.textual.variants x hx⟩)
    (fun x hx => ⟨ho'.keyed.enums x hx, ho'.textual.variants x hx⟩) ⟨_, rfl⟩ ⟨_, rfl⟩ h
  simp only [List.append_cancel_left_eq] at h
  obtain ⟨hm, _⟩ := hcomposites
    (fun x hx => ⟨ho.keyed.composites x hx, ho.wellNamed.members x hx⟩)
    (fun x hx => ⟨ho'.keyed.composites x hx, ho'.wellNamed.members x hx⟩) ⟨_, rfl⟩ ⟨_, rfl⟩ h
  rw [content, content, hc, ht, hx, hm]

end Emission

/-- **The output determines what it says.** If two models have the same output without comments,
names that stand in it as they are are identifiers and all other names are texts, then the two
outputs say the same. -/
theorem content_eq_of_generateTypes {datamodel datamodel' : Json} {s s' : Schema} {t : Text}
    (h : generateTypes datamodel false = .ok t) (h' : generateTypes datamodel' false = .ok t)
    (hs : Schema.ofJson datamodel = .ok s) (hs' : Schema.ofJson datamodel' = .ok s')
    (hn : s.isWellNamed = true) (hn' : s'.isWellNamed = true)
    (ht : s.isTextual = true) (ht' : s'.isTextual = true) :
    ∃ c, datamodel.content = .ok c ∧ datamodel'.content = .ok c := by
  obtain ⟨r, o, hr, ho, e⟩ := generateTypes_eq_ok_iff.mp h
  obtain ⟨r', o', hr', ho', e'⟩ := generateTypes_eq_ok_iff.mp h'
  cases hr.symm.trans hs
  cases hr'.symm.trans hs'
  have hc := Emission.settles_page {} inline_standard
    ⟨(Schema.keyed_ofJson hs).outline ho, Schema.wellNamed_outline ho hn,
      Schema.textual_outline ho ht⟩
    ⟨(Schema.keyed_ofJson hs').outline ho', Schema.wellNamed_outline ho' hn',
      Schema.textual_outline ho' ht'⟩ (e.trans e'.symm)
  refine ⟨Emission.content {} o, ?_, ?_⟩
  · rw [Json.content, Outcome.bind_eq_ok_iff]
    exact ⟨s, hs, Outcome.map_eq_ok_iff.mpr ⟨o, ho, rfl⟩⟩
  · rw [Json.content, Outcome.bind_eq_ok_iff]
    exact ⟨s', hs', Outcome.map_eq_ok_iff.mpr ⟨o', ho', hc.symm⟩⟩

/-- a model with one table, whose fields can be given -/
def Json.withFields (fields : List Json) : Json :=
  .object
    [("models", .list [.object [("name", "a;\n"), ("fields", .list fields)]]),
     ("enums", .list [.object
      [("name", "e"), ("values", .list [.object [("name", " | ")], .object [("name", "\"")]])]])]

/-- a column -/
def Json.columnField : Json := .object [("name", "id"), ("kind", "scalar"), ("type", "Int")]

/-- a foreign key -/
def Json.keyField : Json :=
  .object [("name", "b"), ("kind", "object"), ("type", "b"), ("relationName", "\",\n"),
    ("relationFromFields", .list ["id"]), ("relationToFields", .list ["],["])]

theorem content_eq_withFields :
    ∃ t c, generateTypes (.withFields [.columnField, .keyField]) false = .ok t
      ∧ generateTypes (.withFields [.keyField, .columnField]) false = .ok t
      ∧ (Json.withFields [.columnField, .keyField]).content = .ok c
      ∧ (Json.withFields [.keyField, .columnField]).content = .ok c := by
  have h : ∃ t, generateTypes (.withFields [.columnField, .keyField]) false = .ok t
      ∧ generateTypes (.withFields [.keyField, .columnField]) false = .ok t := ⟨_, rfl, rfl⟩
  have hs : ∃ s, Schema.ofJson (.withFields [.columnField, .keyField]) = .ok s
      ∧ s.isWellNamed = true ∧ s.isTextual = true := ⟨_, rfl, rfl, rfl⟩
  have hs' : ∃ s, Schema.ofJson (.withFields [.keyField, .columnField]) = .ok s
      ∧ s.isWellNamed = true ∧ s.isTextual = true := ⟨_, rfl, rfl, rfl⟩
  obtain ⟨t, h, h'⟩ := h
  obtain ⟨s, hs, hn, ht⟩ := hs
  obtain ⟨s', hs', hn', ht'⟩ := hs'
  obtain ⟨c, hc, hc'⟩ := content_eq_of_generateTypes h h' hs hs' hn hn' ht ht'
  exact ⟨t, c, h, h', hc, hc'⟩

end DatabaseTypes
