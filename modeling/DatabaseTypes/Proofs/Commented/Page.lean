import DatabaseTypes.Proofs.Commented
import DatabaseTypes.Proofs.Lines

/-!
# The output with and without comments

The output with comments is the output without them into which the comments are put.

* `Unending.escaped`      no comment ends in an escaped line
* `Sealed`                the lines of one comment
* `Emission.woven_block`  the block of a schema with comments and without
-/

namespace DatabaseTypes

open Scan (isPlain closing? Unending staysOpen)

/-! ## texts in which no comment ends -/

/-- what is left of an escaped line after `skip` characters; it begins with a slash only if the
line does -/
theorem unending_replacedFrom (skip : Nat) (t : Text) :
    Unending (Text.replacedFrom ['*', '/'] ['*', '\\', '/'] skip t)
      ∧ (skip = 0 → (Text.replacedFrom ['*', '/'] ['*', '\\', '/'] 0 t).head? = some '/' →
          t.head? = some '/') := by
  induction t generalizing skip with
  | nil => exact ⟨.nil, fun _ h => by cases h⟩
  | cons c t ih =>
    cases skip with
    | succ skip =>
      rw [Text.replacedFrom]
      exact ⟨(ih skip).1, fun e => by cases e⟩
    | zero =>
      rw [Text.replacedFrom]
      by_cases hs : Text.startsWith ['*', '/'] (c :: t) = true
      · rw [if_pos hs]
        refine ⟨?_, fun _ h => by cases h⟩
        refine .cons (.cons (.cons (ih 1).1 ?_) ?_) ?_ <;> rintro d hd ⟨h₁, h₂⟩
        · cases h₁
        · cases h₁
        · cases hd; cases h₂
      · rw [if_neg hs]
        refine ⟨.cons (ih 0).1 fun d hd e => hs ?_, fun _ h => h⟩
        -- a star before a slash would have been replaced
        obtain ⟨rfl, rfl⟩ := e
        have ht := (ih 0).2 rfl hd
        cases t with
        | nil => cases ht
        | cons d t => cases ht; rfl

/-- a constant without stars, given by its characters -/
theorem unending_constant {l : List Char} (h : l.all (· != '*') = true) :
    Unending (' ' :: (String.ofList l).toList) := by
  rw [String.toList_ofList]
  have hl : Unending (' ' :: l ++ []) := by
    refine Scan.Unending.starless (t := ' ' :: l) (fun c hc => ?_) .nil
    rcases List.mem_cons.mp hc with rfl | hc
    · decide
    · exact bne_iff_ne.mp (List.all_eq_true.mp h c hc)
  rwa [List.append_nil] at hl

theorem unending_escaped (line : Text) : Unending (Comment.escaped line) :=
  (unending_replacedFrom 0 line).1

theorem unending_blockLine (line : Text) : Unending (Comment.blockLine line) := by
  have h : Unending ([' ', '*', ' '] ++ Comment.escaped line) := by
    refine .cons (.cons (.cons (unending_escaped line) ?_) ?_) ?_ <;> rintro d hd ⟨h₁, h₂⟩
    · cases h₁
    · cases hd; cases h₂
    · cases h₁
  exact h.prefix (Text.prefix_trimEnd _)

/-! ## comments -/

/-- the lines of one comment, at any indentation -/
def Sealed (ls : List Text) : Prop := ∀ n, ls = [] ∨ ∃ body, Unending ('*' :: body)
  ∧ Text.joined ['\n'] (ls.map (Text.spaces n ++ ·))
      = Text.spaces n ++ ('/' :: '*' :: ('*' :: body) ++ ['*', '/'])

theorem sealed_nil : Sealed [] := fun _ => .inl rfl

theorem ne_star_of_mem_spaces {n : Nat} : ∀ c ∈ Text.spaces n, c ≠ '*' := by
  intro c hc
  rw [List.eq_of_mem_replicate hc]
  decide

theorem sealed_single (line : Text) :
    Sealed [Comment.opening ++ " " ++ Comment.escaped line ++ Comment.closing] := by
  intro n
  refine .inr ⟨[' '] ++ Comment.escaped line ++ [' '], ?_, ?_⟩
  · have h : Unending (Comment.escaped line ++ [' ']) :=
      (unending_escaped line).append (.singleton ' ') fun c hc => by cases hc; decide
    refine .cons (.cons h ?_) ?_ <;> rintro d hd ⟨h₁, h₂⟩
    · cases h₁
    · cases hd; cases h₂
  · rw [List.map_singleton, Text.joined_single]
    simp [Comment.opening, Comment.closing]

/-- lines between the first and the last one of a block -/
theorem sealed_block (ls : List Text) :
    Sealed (Comment.opening :: ls.map Comment.blockLine ++ [Comment.closing]) := by
  intro n
  have hlines : Unending ((ls.map Comment.blockLine).flatMap fun l => '\n' :: Text.spaces n ++ l) := by
    induction ls with
    | nil => exact .nil
    | cons l ls ih =>
      rw [List.map_cons, List.flatMap_cons]
      refine Scan.Unending.append (Scan.Unending.starless (t := '\n' :: Text.spaces n) ?_ ?_) ih ?_
      · intro c hc
        rcases List.mem_cons.mp hc with rfl | hc
        · decide
        · exact ne_star_of_mem_spaces c hc
      · exact unending_blockLine l
      · intro c hc
        cases ls with
        | nil => cases hc
        | cons m ls => cases hc; decide
  have hlast : Unending ('\n' :: Text.spaces n ++ [' ']) := by
    refine Scan.Unending.starless (t := '\n' :: Text.spaces n) (fun c hc => ?_) (.singleton ' ')
    rcases List.mem_cons.mp hc with rfl | hc
    · decide
    · exact ne_star_of_mem_spaces c hc
  refine .inr ⟨((ls.map Comment.blockLine).flatMap fun l => '\n' :: Text.spaces n ++ l)
    ++ ('\n' :: Text.spaces n ++ [' ']), ?_, ?_⟩
  · refine .cons (hlines.append hlast fun c hc => by cases hc; decide) fun c hc e => ?_
    cases ls with
    | nil => cases hc; cases e.2
    | cons l ls => cases hc; cases e.2
  · rw [List.cons_append, List.map_cons, Text.joined_cons_eq_flatMap]
    simp [Comment.opening, Comment.closing, List.flatMap_map]

theorem sealed_ofLines (ls : List Text) : Sealed (Comment.ofLines ls) := by
  match ls with
  | [] => exact sealed_nil
  | [line] => exact sealed_single line
  | l :: m :: ls => exact sealed_block (l :: m :: ls)

theorem sealed_ofEnum (x : Enum) : Sealed (Comment.ofEnum x) := by
  unfold Comment.ofEnum
  split
  · exact sealed_ofLines x.documentation
  · exact sealed_block _

theorem sealed_shown (enabled : Bool) {ls : List Text} (h : Sealed ls) :
    Sealed (Comment.shown enabled ls) := by
  cases enabled
  · exact sealed_nil
  · exact h

/-- a comment above a piece -/
theorem woven_before {above : List Text} (h : Sealed above) (n : Nat) {node : Layout} {s : Text}
    (hn : Woven node.text s) : Woven (Layout.before above node (Text.spaces n)).text s := by
  rcases h n with rfl | ⟨body, hb, e⟩
  · exact hn
  by_cases ha : above = []
  · subst ha; exact hn
  rw [Layout.text_before above node _ ha, e]
  obtain ⟨b, hn⟩ := hn
  have hr := (Commented.remark n hb).append hn
  exact ⟨b, by simpa using hr⟩

/-! ## pieces of the output -/

namespace Emission

theorem woven_braced (n : Nat) (title : Text) (ht : Bare title) {body body' : Layout}
    (hb : Woven body.text body'.text) :
    Woven (braced (Text.spaces n) title body).text (braced (Text.spaces n) title body').text := by
  have h := hb.block (c := '\x7b') rfl
    (((bare_spaces n).append ht).append (bare_of_plain (s := [':', ' ']) (by simp [Plain, isPlain,
      closing?, Scan.isClosing]))) (bare_spaces n)
  simpa [braced, Layout.text] using h

/-- pieces with a separator that ends with a line end -/
theorem woven_layouts (sep : Text) (hsep : Bare sep) {ns ns' : List Layout}
    (h : List.Forall₂ (fun n n' => Woven n.text n'.text) ns ns') :
    Woven (Layout.joined ns (sep ++ ['\n'])).text (Layout.joined ns' (sep ++ ['\n'])).text := by
  rw [Layout.text, Layout.text, Layout.texts_eq_map, Layout.texts_eq_map]
  refine woven_joined hsep ?_
  rw [List.forall₂_map_left_iff, List.forall₂_map_right_iff]
  exact h

theorem woven_stacked {ns ns' : List Layout}
    (h : List.Forall₂ (fun n n' => Woven n.text n'.text) ns ns') :
    Woven (Layout.stacked ns).text (Layout.stacked ns').text :=
  woven_layouts [] bare_nil h

/-- the pieces that two functions make of the same items -/
theorem forall₂_layouts {ι : Type} {f g : ι → Layout} {xs : List ι}
    (h : ∀ x ∈ xs, Woven (f x).text (g x).text) :
    List.Forall₂ (fun n n' => Woven n.text n'.text) (xs.map f) (xs.map g) := by
  rw [List.forall₂_map_left_iff, List.forall₂_map_right_iff, List.forall₂_same]
  exact h

section
variable (e : Emission)

theorem woven_member {p : Projection} (hn : p.name.isIdentifier = true) (ht : Bare p.type) :
    Woven (e.member p).text (e.silent.member p).text := by
  obtain ⟨name, hname, hi⟩ := Json.exists_of_isIdentifier hn
  have hline : Bare (memberLine p) := by
    have hmark : Bare (if p.isOptional then "?" else "").toList := by
      cases p.isOptional
      · exact bare_nil
      · exact bare_constant rfl
    unfold memberLine
    rw [hname]
    exact ((((bare_spaces 10).append (bare_identifier hi)).append hmark).append
      (bare_constant rfl)).append ht
  exact woven_before (sealed_shown _ (sealed_ofLines _)) 10 hline.woven

theorem woven_record (title : Text) (h : Bare title) {ps : List Projection}
    (hp : ∀ p ∈ ps, p.name.isIdentifier = true ∧ Bare p.type) :
    Woven (e.record title ps).text (e.silent.record title ps).text := by
  refine woven_braced 8 title h ?_
  exact woven_layouts [';'] (bare_of_plain (plain_single rfl))
    (forall₂_layouts fun p hm => e.woven_member (hp p hm).1 (hp p hm).2)

theorem bare_relationship (r : Relationship) : Bare (relationship r).text := by
  have hl : ∀ l ∈ relationshipLines r, Bare (relationshipIndent ++ l) := by
    have hw := bare_written plainStyle_plain r.name
    have hc := bare_written plainStyle_compact (Json.list r.columns)
    have hr := bare_written plainStyle_compact (Json.list r.referenced)
    have ho : Bare (if r.isOneToOne then "true" else "false").toList := by
      cases r.isOneToOne <;> exact bare_constant rfl
    intro l hm
    refine (bare_spaces 12).append ?_
    simp only [relationshipLines, List.mem_cons, List.not_mem_nil, or_false] at hm
    rcases hm with rfl | rfl | rfl | rfl | rfl
    · exact ((bare_constant rfl).append hw).append (bare_constant rfl)
    · exact ((bare_constant rfl).append hc).append (bare_constant rfl)
    · exact ((bare_constant rfl).append ho).append (bare_constant rfl)
    · exact ((bare_constant rfl).append (bare_literal _)).append (bare_constant rfl)
    · exact (bare_constant rfl).append hr
  have hbody : Bare (Text.joined ['\n'] ((relationshipLines r).map (relationshipIndent ++ ·))) := by
    refine bare_joined (bare_of_plain (plain_single rfl)) fun t ht => ?_
    obtain ⟨l, hm, rfl⟩ := List.mem_map.mp ht
    exact hl l hm
  have hn : Bare ['\n'] := bare_of_plain (plain_single rfl)
  have h := (bare_spaces 10).append
    (Bare.enclosed (c := '\x7b') rfl (((hn.append hbody).append hn).append (bare_spaces 10)))
  simpa [relationship, Layout.text, memberIndent] using h

theorem bare_relationships (rs : List Relationship) : Bare (relationships rs).text := by
  have hbody : Bare (Layout.joined (rs.map relationship) ",\n").text := by
    rw [Layout.text, Layout.texts_eq_map, List.map_map]
    refine bare_joined (bare_constant rfl) fun t ht => ?_
    obtain ⟨r, _, rfl⟩ := List.mem_map.mp ht
    exact bare_relationship r
  have hn : Bare ['\n'] := bare_of_plain (plain_single rfl)
  have ht : Bare "Relationships: ".toList := bare_constant rfl
  have h := ((bare_spaces 8).append ht).append
    (Bare.enclosed (c := '[') rfl (((hn.append hbody).append hn).append (bare_spaces 8)))
  simpa [relationships, Layout.text, recordIndent] using h

end

/-! ## types -/

end Emission

/-- every type is bare -/
theorem ensures_bare {c : Classifier} (hc : Key.isIdentifier c.schemaName = true)
    (hscalars : ∀ x, Plain (c.scalars x)) : c.Ensures Bare where
  scalar x := bare_of_plain (hscalars x)
  unknown := bare_constant rfl
  never := bare_constant rfl
  reference he hn := by
    have hq : ∀ {t : Text}, Key.isIdentifier t = true →
        Bare ('[' :: ('\'' :: t ++ ['\'']) ++ [']']) := fun h => Bare.enclosed rfl (bare_quoted h)
    rw [Classifier.reference_eq]
    exact (((bare_constant rfl).append (hq hc)).append (hq he)).append (hq hn)
  identifier h := bare_identifier h
  orNull h := (h.append (bare_constant rfl)).append (bare_constant rfl)

namespace Emission

section
variable (e : Emission) {c : Classifier} (hc : c.Ensures Bare)
include hc

/-! ## entries -/

/-- the three records of a table show the columns under their names, with bare types -/
theorem woven_sheet {t : Outline.Table} (ht : ∀ f ∈ t.columns,
    f.name.isIdentifier = true ∧ f.shape.namesIdentifiers = true) (hk : Bare t.key) :
    Woven (e.sheet c t).text (e.silent.sheet c t).text := by
  refine woven_before (sealed_shown _ (sealed_ofLines _)) 6 ?_
  refine woven_braced 6 _ hk ?_
  exact woven_stacked (.cons (e.woven_record "Row" (bare_constant rfl) (hc.row ht))
    (.cons (e.woven_record "Insert" (bare_constant rfl) (hc.insert ht))
      (.cons (e.woven_record "Update" (bare_constant rfl) (hc.update ht))
        (.cons (bare_relationships t.relationships).woven .nil))))

omit hc in
theorem woven_enum {x : Enum} (hk : Bare x.key) :
    Woven (e.enum x).text (e.silent.enum x).text := by
  refine woven_before (sealed_shown _ (sealed_ofEnum x)) 6 (Bare.woven ?_)
  have hv : Bare (variantUnion x.variants) := by
    refine bare_joined (bare_constant rfl) fun t ht => ?_
    obtain ⟨v, _, rfl⟩ := List.mem_map.mp ht
    exact bare_written plainStyle_plain v.name
  exact (((bare_spaces 6).append hk).append (bare_constant rfl)).append hv

theorem woven_compositeMember {m : Member} (h : m.isWellNamed = true) :
    Woven (e.compositeMember c m).text (e.silent.compositeMember c m).text := by
  have ht := hc.memberType h
  rw [Member.isWellNamed, Bool.and_eq_true] at h
  obtain ⟨name, hname, hi⟩ := Json.exists_of_isIdentifier h.1
  refine woven_before (sealed_shown _ (sealed_ofLines _)) 8 (Bare.woven ?_)
  rw [Layout.text, hname]
  exact (((bare_spaces 8).append (bare_identifier hi)).append (bare_constant rfl)).append ht

theorem woven_composite {x : Composite} (hm : ∀ m ∈ x.members, m.isWellNamed = true)
    (hk : Bare x.key) : Woven (e.composite c x).text (e.silent.composite c x).text :=
  woven_braced 6 _ hk (woven_layouts [','] (bare_of_plain (plain_single rfl))
    (forall₂_layouts fun m h => e.woven_compositeMember hc (hm m h)))

end

/-! ## sections -/

theorem bare_emptySection : Bare emptySection := by
  have hn : Bare "_ in never".toList := bare_constant rfl
  have ht : Bare ": never".toList := bare_constant rfl
  have e : emptySection = '[' :: "_ in never".toList ++ [']'] ++ ": never".toList := by
    unfold emptySection
    simp
  rw [e]
  exact (Bare.enclosed rfl hn).append ht

theorem woven_entries (sep : Text) (hsep : Bare sep) {ι : Type} {f g : ι → Layout} {xs : List ι}
    (h : ∀ x ∈ xs, Woven (f x).text (g x).text) :
    Woven (entries (sep ++ ['\n']) (xs.map f)).text (entries (sep ++ ['\n']) (xs.map g)).text := by
  by_cases e : xs = []
  · subst e
    exact ((bare_spaces 6).append bare_emptySection).woven
  · have hf : ∀ k : ι → Layout, (xs.map k).isEmpty = false := fun k => by simpa using e
    unfold entries
    rw [hf, hf]
    exact woven_layouts sep hsep (forall₂_layouts h)

/-- a section with a note, given by the characters of the note -/
theorem woven_placeholder (title note : Text) (ht : Bare title) {l : List Char}
    (h : Unending (' ' :: l)) (e : note = '/' :: '*' :: (' ' :: l) ++ ['*', '/']) :
    Woven (placeholder title note).text (placeholder title note).text := by
  have hb : Bare note := by
    rw [e]
    exact fun b => ⟨_, .note b h⟩
  exact woven_braced 4 title ht ((bare_spaces 6).append hb).woven

/-- **The block of a schema with comments is the one without them, with comments put in.** -/
theorem woven_block (e : Emission) (hscalars : ∀ x, Plain (e.scalars x)) {o : Outline}
    (hk : o.Keyed) (hn : o.WellNamed) :
    Woven (braced schemaIndent o.key (.stacked (e.sections o))).text
      (braced schemaIndent o.key (.stacked (e.silent.sections o))).text := by
  have hc : (e.classifierOf o).Ensures Bare :=
    ensures_bare (c := e.classifierOf o) hk.isIdentifier_name hscalars
  have hviews := woven_placeholder "Views" "/* No support for views */" (bare_constant rfl)
    (unending_constant (l := "No support for views ".toList) (by simp)) (by simp)
  have hfunctions := woven_placeholder "Functions" "/* No support for functions */"
    (bare_constant rfl) (unending_constant (l := "No support for functions ".toList) (by simp))
    (by simp)
  have htables : ∀ t ∈ o.tables,
      Woven (e.sheet (e.classifierOf o) t).text (e.silent.sheet (e.classifierOf o) t).text :=
    fun t ht => e.woven_sheet hc (hn.columns t ht) (hk.tables t ht ▸ bare_key _)
  have henums : ∀ x ∈ o.enums, Woven (e.enum x).text (e.silent.enum x).text :=
    fun x hx => e.woven_enum (hk.enums x hx ▸ bare_key _)
  have hcomposites : ∀ x ∈ o.composites, Woven (e.composite (e.classifierOf o) x).text
      (e.silent.composite (e.classifierOf o) x).text :=
    fun x hx => e.woven_composite hc (hn.members x hx) (hk.composites x hx ▸ bare_key _)
  have hcomma : Bare [',', '\n'] := (bare_of_plain (plain_single rfl)).append
    (bare_of_plain (plain_single rfl))
  refine woven_braced 2 o.key (hk.key ▸ bare_key _) (woven_stacked ?_)
  refine .cons (woven_braced 4 "Tables" (bare_constant rfl) ?_) (.cons hviews
    (.cons hfunctions (.cons (woven_braced 4 "Enums" (bare_constant rfl) ?_)
      (.cons (woven_braced 4 "CompositeTypes" (bare_constant rfl) ?_) .nil))))
  · exact woven_entries [';'] (bare_of_plain (plain_single rfl)) htables
  · exact woven_entries [] bare_nil henums
  · exact woven_entries [',', '\n'] hcomma hcomposites

end Emission
end DatabaseTypes
