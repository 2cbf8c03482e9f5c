import DatabaseTypes.Proofs.Json.Literal
import DatabaseTypes.Proofs.Lines
import DatabaseTypes.Proofs.Outline
import DatabaseTypes.Proofs.Named

/-!
# Keys of members

Tables, enums and composite types stand under keys that name them, whatever their names are.  Columns and members of
composite types stand under their names as they are.

* `Key.decoded?`            the text that a string literal stands for
* `Key.Names`               a key is a name, which is an identifier, or a string literal of it
* `Key.names_self`          a name as it stands is a key only if it is an identifier
* `Key.names_ofName`        the key of a name
* `KeyedLine`               a line with a key
* `Layout.Within`           a piece of the output in another one
* `Emission.HasKeys`        which keys of an output name what is under them
* `generateTypes_hasKeys`   they do so in every output
-/

namespace DatabaseTypes

/-! ## string literals -/

namespace Json

theorem length_of_hexUnit? {t rest : Text} {n : Nat} (h : hexUnit? t = some (n, rest)) : rest.length < t.length := by
  unfold hexUnit? at h
  split at h
  · split at h
    · cases h
      simp only [List.length_cons]
      omega
    · cases h
  · cases h

theorem length_of_readUnits {t rest : Text} {c : Char} (h : readUnits t = .ok (c, rest)) : rest.length < t.length := by
  unfold readUnits at h
  split at h
  · cases h
  · rename_i high after hhigh
    have hafter := length_of_hexUnit? hhigh
    split at h
    · split at h
      · split at h
        · cases h
        · rename_i low last hlow
          have hlast := length_of_hexUnit? hlow
          simp only [List.length_cons] at hafter
          split at h
          · rw [← (Prod.mk.inj (Except.ok.inj h)).2]
            omega
          · rw [← (Prod.mk.inj (Except.ok.inj h)).2]
            simp only [List.length_cons]
            omega
      · cases h
        exact hafter
    · cases h
      exact hafter

/-- a string literal is longer than its text -/
theorem length_of_readStringFrom {opened read t s rest : Text} {fuel : Nat}
    (h : readStringFrom opened fuel read t = .ok (s, rest)) : s.length + rest.length < read.length + t.length := by
  induction fuel generalizing read t with
  | zero => cases h
  | succ fuel ih =>
    cases t with
    | nil => cases h
    | cons c t =>
      rw [readStringFrom.eq_def] at h
      dsimp only at h
      split at h
      · cases h
        simp
      · split at h
        · split at h
          · cases h
          · split at h
            · cases h
            · rename_i hunits
              have hlength := length_of_readUnits hunits
              have hread := ih h
              simp only [List.length_cons] at hread ⊢
              omega
          · split at h
            · cases h
            · have hread := ih h
              simp only [List.length_cons] at hread ⊢
              omega
        · split at h
          · cases h
          · have hread := ih h
            simp only [List.length_cons] at hread ⊢
            omega

/-- a character that is written in a literal is read back -/
theorem readStringFrom_plainChar {opened read rest : Text} {fuel : Nat} (c : Char) (hrest : rest ≠ []) :
    readStringFrom opened (fuel + 1) read (literalChar false c ++ rest)
      = readStringFrom opened fuel (c :: read) rest := by
  rcases literalChar_eq c with ⟨d, hd, htext⟩ | ⟨hlt, htext⟩ | ⟨hge, hquote, hslash, htext⟩
  · obtain ⟨hshort, hu⟩ := shortEscape?_of_mem _ hd
    rw [htext]
    exact readStringFrom_short hshort hu
  · have hhalf : isHalf c = false := by
      simp [isHalf]
      omega
    have hread := readUnits_single (n := c.toNat) (by omega) hrest fun hhigh => by
      simp [isHighSurrogate] at hhigh
      omega
    rw [← charCode_of_not_isHalf hhalf, charOfCode_charCode, charCode_of_not_isHalf hhalf] at hread
    rw [htext]
    exact readStringFrom_units hread
  · rw [htext]
    exact readStringFrom_self hge hquote hslash

theorem length_le_flatMap_plain (t : Text) : t.length ≤ (t.flatMap (literalChar false)).length := by
  induction t with
  | nil => exact Nat.le_refl 0
  | cons c t ih =>
    have hpos : 0 < (literalChar false c).length := by
      rcases literalChar_eq c with ⟨_, _, e⟩ | ⟨_, e⟩ | ⟨_, _, _, e⟩ <;> exact e ▸ Nat.zero_lt_succ _
    rw [List.flatMap_cons, List.length_append, List.length_cons]
    omega

theorem readStringFrom_plain (t opened read rest : Text) {fuel : Nat} (hfuel : t.length < fuel) :
    readStringFrom opened fuel read (t.flatMap (literalChar false) ++ '"' :: rest) = .ok (read.reverse ++ t, rest) := by
  induction t generalizing read fuel with
  | nil =>
    obtain ⟨fuel, rfl⟩ : ∃ n, fuel = n + 1 := ⟨fuel - 1, by simp at hfuel; omega⟩
    rw [List.append_nil]
    exact readStringFrom_quote
  | cons c t ih =>
    obtain ⟨fuel, rfl⟩ : ∃ n, fuel = n + 1 := ⟨fuel - 1, by simp at hfuel; omega⟩
    rw [List.flatMap_cons, List.append_assoc, readStringFrom_plainChar c
      (List.append_ne_nil_of_right_ne_nil _ (List.cons_ne_nil _ _)), ih (c :: read) (by simpa using hfuel),
      List.reverse_cons, List.append_assoc]
    rfl

end Json

/-! ## keys -/

namespace Key

/-- the text that a string literal stands for -/
def decoded? : Text → Option Text
  | '"' :: t =>
    match Json.readString (t.length + 1) t with
    | .ok (name, []) => some name
    | _ => none
  | _ => none

/-- a key names what is under it: the name itself if that is an identifier, or a string literal of the name -/
def Names (key name : Text) : Prop := isIdentifier name = true ∧ key = name ∨ decoded? key = some name

instance (key name : Text) : Decidable (Names key name) := inferInstanceAs (Decidable (_ ∨ _))

theorem decoded?_of_readString {t name : Text} (h : Json.readString (t.length + 1) t = .ok (name, [])) :
    decoded? ('"' :: t) = some name := by
  show (match Json.readString (t.length + 1) t with
    | .ok (name, []) => some name
    | _ => none) = some name
  rw [h]

theorem decoded?_literal (name : Text) : decoded? (Json.literal false name) = some name := by
  refine decoded?_of_readString (Json.readStringFrom_plain name _ [] [] ?_)
  have hlength := Json.length_le_flatMap_plain name
  rw [List.append_eq, List.length_append]
  exact Nat.lt_succ_of_le (Nat.le_add_right_of_le hlength)

theorem length_of_decoded? {key name : Text} (h : decoded? key = some name) : name.length < key.length := by
  unfold decoded? at h
  split at h
  · split at h
    · rename_i hread
      cases h
      have hlength := Json.length_of_readStringFrom hread
      simp only [List.length_cons, List.length_nil] at hlength ⊢
      omega
    · cases h
  · cases h

/-- a name as it stands is a key of its own exactly if it is an identifier -/
theorem names_self (name : Text) : Names name name ↔ isIdentifier name = true := by
  constructor
  · rintro (⟨h, _⟩ | h)
    · exact h
    · exact absurd (length_of_decoded? h) (Nat.lt_irrefl _)
  · exact fun h => .inl ⟨h, rfl⟩

/-- an identifier with a line feed after it -/
def IsEndedIdentifier (name : Text) : Prop := name.getLast? = some '\n' ∧ isIdentifier name.dropLast = true

/-- the key of a name is one, but for identifiers with a line feed after them -/
theorem names_ofName (name : Text) : Names (ofName name) name ↔ ¬ IsEndedIdentifier name := by
  have hend : name.getLast? = some '\n' → isIdentifier name = false := by
    intro hlast
    rw [← Bool.not_eq_true]
    exact fun h => absurd (isTail_of_mem h '\n' (List.mem_of_getLast? hlast)) (by decide)
  unfold ofName isBare
  by_cases hself : IsEndedIdentifier name
  · rw [if_pos (by simp [hself.1, hself.2]), names_self, hend hself.1]
    simp [hself]
  · have hbare : (name.getLast? == some '\n' && isIdentifier name.dropLast) = false := by
      rw [← Bool.not_eq_true, Bool.and_eq_true, beq_iff_eq]
      exact hself
    rw [hbare, Bool.or_false]
    refine iff_of_true ?_ hself
    split
    · rename_i hid
      exact (names_self name).mpr hid
    · exact .inr (decoded?_literal name)

end Key

/-! ## lines -/

/-- a line has a key that names what is in it: an indentation, the key, and the rest of the line -/
def KeyedLine (indent : Text) (name : Json) (rest line : Text) : Prop :=
  ∃ key n, name = .text n ∧ line = indent ++ key ++ rest ∧ Key.Names key n

/-- a line with a name as it stands has such a key exactly if the name is an identifier -/
theorem keyedLine_display (indent : Text) (name : Json) (rest : Text) :
    KeyedLine indent name rest (indent ++ name.display ++ rest) ↔ name.isIdentifier = true := by
  constructor
  · rintro ⟨key, n, rfl, hline, hkey⟩
    have hname : n = key := List.append_cancel_left (List.append_cancel_right hline)
    rw [← hname] at hkey
    exact (Key.names_self n).mp hkey
  · intro h
    obtain ⟨n, rfl, hn⟩ := Json.exists_of_isIdentifier h
    exact ⟨n, n, rfl, rfl, (Key.names_self n).mpr hn⟩

/-- a piece is part of another one -/
inductive Layout.Within (node : Layout) : Layout → Prop where
  | self : Within node node
  | joined {m : Layout} {children : List Layout} {separator : Text} (hm : m ∈ children) (h : Within node m) :
    Within node (.joined children separator)
  | block {opening closing : Text} {body : Layout} (h : Within node body) :
    Within node (.block opening body closing)

namespace Layout.Within

variable {node m : Layout}

theorem before (above : List Text) (indent : Text) (h : node.Within m) : node.Within (.before above m indent) := by
  unfold Layout.before
  split
  · exact h
  · exact .joined (List.mem_cons_of_mem _ List.mem_cons_self) h

theorem isInfix_opening (opening closing : Text) (body : Layout) :
    opening <:+: (Layout.block opening body closing).text := by
  simp only [Layout.text, List.append_assoc]
  exact (List.prefix_append _ _).isInfix

theorem isInfix_body (opening closing : Text) (body : Layout) :
    body.text <:+: (Layout.block opening body closing).text :=
  ⟨opening ++ ['\n'], ['\n'] ++ closing, by simp [Layout.text]⟩

theorem isInfix (h : node.Within m) : node.text <:+: m.text := by
  induction h with
  | self => exact List.infix_refl _
  | joined hm _ ih =>
    refine ih.trans ?_
    rw [Layout.text, Layout.texts_eq_map]
    exact Text.isInfix_joined (List.mem_map_of_mem hm)
  | block _ ih => exact ih.trans (isInfix_body _ _ _)

end Layout.Within

namespace Emission

variable {node m : Layout}

theorem within_entries {separator : Text} {nodes : List Layout} (hm : m ∈ nodes) (h : node.Within m) :
    node.Within (entries separator nodes) := by
  cases nodes with
  | nil => cases hm
  | cons _ _ => exact .joined hm h

/-- the block of a schema -/
def blockOf (e : Emission) (o : Outline) : Layout := braced schemaIndent o.key (.stacked (e.sections o))

/-- what is part of a block is part of the output -/
theorem within_frame {block : Layout} {blocks : List Layout} (hb : block ∈ blocks) (h : node.Within block) :
    node.Within (frame blocks) := by
  have hdatabase : node.Within (.block "export type Database = \x7b" (.stacked blocks) "\x7d") := .block (.joined hb h)
  exact .joined (List.mem_cons_of_mem _ (List.mem_cons_of_mem _ (List.mem_cons_of_mem _ List.mem_cons_self))) hdatabase

variable {e : Emission} {o : Outline} {u : Outline.Table} {x : Composite}

theorem within_page (h : node.Within (e.blockOf o)) : node.Within (e.page o) := within_frame List.mem_cons_self h

theorem within_blockOf (hm : m ∈ e.sections o) (h : node.Within m) : node.Within (e.blockOf o) :=
  .block (.joined hm h)

theorem within_sheet (hu : u ∈ o.tables) (h : node.Within (e.sheet (e.classifierOf o) u)) :
    node.Within (e.blockOf o) :=
  within_blockOf List.mem_cons_self (.block (within_entries (List.mem_map_of_mem hu) h))

theorem within_enum {x : Enum} (hx : x ∈ o.enums) (h : node.Within (e.enum x)) : node.Within (e.blockOf o) :=
  within_blockOf (List.mem_cons_of_mem _ (List.mem_cons_of_mem _ (List.mem_cons_of_mem _ List.mem_cons_self)))
    (.block (within_entries (List.mem_map_of_mem hx) h))

theorem within_composite (hx : x ∈ o.composites) (h : node.Within (e.composite (e.classifierOf o) x)) :
    node.Within (e.blockOf o) := by
  refine within_blockOf (m := braced sectionIndent "CompositeTypes" (entries ",\n\n" _)) ?_
    (.block (within_entries (List.mem_map_of_mem hx) h))
  simp [sections]

/-- the line of a member of a record is part of the block -/
theorem within_memberLine (hu : u ∈ o.tables) {f : Field} (hf : f ∈ u.columns) {p : Projection}
    (hp : p = (e.classifierOf o).row f ∨ p = (e.classifierOf o).insert f ∨ p = (e.classifierOf o).update f) :
    (Layout.verbatim (memberLine p)).Within (e.blockOf o) := by
  have hrecord (title : Text) {ps : List Projection} (h : p ∈ ps) :
      (Layout.verbatim (memberLine p)).Within (e.record title ps) :=
    .block (.joined (List.mem_map_of_mem h) (.before _ _ .self))
  refine within_sheet hu (.before _ _ (.block ?_))
  rcases hp with rfl | rfl | rfl
  · exact .joined List.mem_cons_self (hrecord _ (List.mem_map_of_mem hf))
  · exact .joined (List.mem_cons_of_mem _ List.mem_cons_self) (hrecord _ (List.mem_map_of_mem hf))
  · exact .joined (List.mem_cons_of_mem _ (List.mem_cons_of_mem _ List.mem_cons_self))
      (hrecord _ (List.mem_map_of_mem hf))

/-- the line of a member of a composite type -/
def compositeLine (c : Classifier) (m : Member) : Text :=
  recordIndent ++ m.name.display ++ (": ".toList ++ c.memberType m.type)

theorem isInfix_compositeLine (hx : x ∈ o.composites) {m : Member} (hm : m ∈ x.members) :
    compositeLine (e.classifierOf o) m <:+: (e.page o).text := by
  have hmember : (Layout.verbatim (compositeLine (e.classifierOf o) m)).Within
      (e.compositeMember (e.classifierOf o) m) := by
    rw [compositeLine, ← List.append_assoc]
    exact .before _ _ .self
  exact (within_page (within_composite hx (.block (.joined (List.mem_map_of_mem hm) hmember)))).isInfix

/-- what stands after the key of a member of a record: a mark if it may be left out, and its type -/
def afterKey (p : Projection) : Text := (if p.isOptional then "?" else "").toList ++ ": " ++ p.type

theorem memberLine_eq (p : Projection) : memberLine p = memberIndent ++ p.name.display ++ afterKey p := by
  simp [memberLine, afterKey]

/-- how an entry in braces begins -/
def openingLine (key : Text) : Text := entryIndent ++ key ++ ": \x7b"

/-- the line of an enum -/
def enumLine (x : Enum) : Text := entryIndent ++ x.key ++ ": " ++ variantUnion x.variants

/-- the keys in the output for an outline: a column and a member of a composite type have a key that names them
exactly if their names are identifiers, and a table, an enum and a composite type unless their names are identifiers
with line feeds after them -/
structure HasKeys (e : Emission) (o : Outline) (t : Text) : Prop where
  column : ∀ u ∈ o.tables, ∀ f ∈ u.columns, ∀ p,
    p = (e.classifierOf o).row f ∨ p = (e.classifierOf o).insert f ∨ p = (e.classifierOf o).update f →
      memberLine p <:+: t
      ∧ (KeyedLine memberIndent f.name (afterKey p) (memberLine p) ↔ f.name.isIdentifier = true)
  member : ∀ x ∈ o.composites, ∀ m ∈ x.members, compositeLine (e.classifierOf o) m <:+: t
    ∧ (KeyedLine recordIndent m.name (": ".toList ++ (e.classifierOf o).memberType m.type)
      (compositeLine (e.classifierOf o) m) ↔ m.name.isIdentifier = true)
  table : ∀ u ∈ o.tables, openingLine u.key <:+: t
    ∧ (Key.Names u.key u.name ↔ ¬ Key.IsEndedIdentifier u.name)
  enum : ∀ x ∈ o.enums, enumLine x <:+: t
    ∧ (Key.Names x.key x.name ↔ ¬ Key.IsEndedIdentifier x.name)
  composite : ∀ x ∈ o.composites, openingLine x.key <:+: t
    ∧ (Key.Names x.key x.name ↔ ¬ Key.IsEndedIdentifier x.name)

theorem hasKeys_page (e : Emission) (h : o.Keyed) : e.HasKeys o (e.page o).text where
  column u hu f hf p hp := by
    have hname : p.name = f.name := by
      rcases hp with rfl | rfl | rfl
      · rfl
      · rw [Classifier.insert]
        split <;> rfl
      · rw [Classifier.update]
        split <;> rfl
    refine ⟨(within_page (within_memberLine hu hf hp)).isInfix, ?_⟩
    rw [memberLine_eq, hname]
    exact keyedLine_display _ _ _
  member x hx m hm := ⟨isInfix_compositeLine hx hm, keyedLine_display _ _ _⟩
  table u hu := by
    have hsheet : (braced entryIndent u.key _).Within (e.sheet (e.classifierOf o) u) := .before _ _ .self
    refine ⟨(Layout.Within.isInfix_opening _ _ _).trans (within_page (within_sheet hu hsheet)).isInfix, ?_⟩
    rw [h.tables u hu]
    exact Key.names_ofName u.name
  enum x hx := by
    have henum : (Layout.verbatim (enumLine x)).Within (e.enum x) := .before _ _ .self
    refine ⟨(within_page (within_enum hx henum)).isInfix, ?_⟩
    rw [h.enums x hx]
    exact Key.names_ofName x.name
  composite x hx := by
    refine ⟨(Layout.Within.isInfix_opening _ _ _).trans (within_page (within_composite hx .self)).isInfix, ?_⟩
    rw [h.composites x hx]
    exact Key.names_ofName x.name

end Emission

/-- **Which keys of an output name what is under them.** Those of tables, enums and composite types do, whatever
their names are, but for an identifier with a line feed after it; those of columns and of members of composite types
do exactly if their names are identifiers. -/
theorem generateTypes_hasKeys {datamodel : Json} {documentation : Bool} {t : Text}
    (h : generateTypes datamodel documentation = .ok t) : ∃ s o, Schema.ofJson datamodel = .ok s ∧ s.outline = .ok o
      ∧ (Emission.page { documentation } o).text = t ∧ Emission.HasKeys { documentation } o t := by
  obtain ⟨s, o, hs, ho, rfl⟩ := generateTypes_eq_ok_iff.mp h
  exact ⟨s, o, hs, ho, rfl, Emission.hasKeys_page _ ((Schema.keyed_ofJson hs).outline ho)⟩

/-- a model with a column and a member of a composite type whose names are no identifiers -/
def Json.hyphenated : Json :=
  .object
    [("models", .list [.object [("name", "order-line"),
       ("fields", .list [.object [("name", "unit-price"), ("kind", "scalar"), ("type", "Int")]])]]),
     ("types", .list [.object [("name", "geo-point"),
       ("fields", .list [.object [("name", "zip code"), ("kind", "scalar"), ("type", "String")]])]])]

theorem generateTypes_hasKeys_hyphenated : ∃ t s o, generateTypes .hyphenated true = .ok t
    ∧ Schema.ofJson .hyphenated = .ok s ∧ s.outline = .ok o ∧ (Emission.page {} o).text = t
    ∧ Emission.HasKeys {} o t := by
  obtain ⟨t, ht⟩ : ∃ t, generateTypes .hyphenated true = .ok t := ⟨_, rfl⟩
  obtain ⟨s, o, hs, ho, htext, hkeys⟩ := generateTypes_hasKeys ht
  exact ⟨t, s, o, ht, hs, ho, htext, hkeys⟩

/-- the key of the table is a literal of its name, but those of the column and the member do not name them -/
theorem hyphenated_without_keys : ∃ s o u x, Schema.ofJson .hyphenated = .ok s ∧ s.outline = .ok o
    ∧ generateTypes .hyphenated true = .ok (Emission.page {} o).text
    ∧ o.tables = [u] ∧ o.composites = [x] ∧ Key.Names u.key u.name ∧ Key.Names x.key x.name
    ∧ (∃ f ∈ u.columns, f.name = .text "unit-price" ∧ ¬ KeyedLine Emission.memberIndent f.name
      (Emission.afterKey (Classifier.row {} f)) (Emission.memberLine (Classifier.row {} f)))
    ∧ ∃ m ∈ x.members, m.name = .text "zip code" ∧ ¬ KeyedLine Emission.recordIndent m.name
      (": ".toList ++ Classifier.memberType {} m.type) (Emission.compositeLine {} m) := by
  refine ⟨_, _, _, _, rfl, rfl, rfl, rfl, rfl, by decide, by decide, ?_, ?_⟩
  · refine ⟨_, List.mem_cons_self, rfl, ?_⟩
    rw [Emission.memberLine_eq]
    exact (not_congr (keyedLine_display _ _ _)).mpr (by decide)
  · refine ⟨_, List.mem_cons_self, rfl, ?_⟩
    rw [Emission.compositeLine, keyedLine_display]
    decide

end DatabaseTypes
