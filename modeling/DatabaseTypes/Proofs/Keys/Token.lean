import DatabaseTypes.Proofs.Keys
import DatabaseTypes.Proofs.Quoted
import DatabaseTypes.Proofs.Without

/-!
# Keys and their names

A key that begins with a double quote is a string literal of a name, and any other one is the name itself.  So no two
names have the same key, and no two entries of a section stand under the same key unless they have the same name.

A key is one token, an identifier or a string literal, and it names one property.  An identifier with a line feed after
it is the exception: it is its own key, and a reader of the output takes the line feed for white space.

* `Key.nameOf?`              the name whose key is given
* `Emission.Under`           an entry stands under a key
* `Json.exists_entries`      the keys under which the entries of an output stand
* `Key.lossless`             nothing is lost in a key
* `Key.Exact`                the key of a name is what it should be
* `Key.Denotes`              the property that a key names
* `Key.denotes_ofName_iff`   the one that the key of a name does
* `Key.exact_iff`            which names have exact keys, and which keys name the same property
-/

namespace DatabaseTypes

/-! ## keys -/

namespace Key

/-- the name whose key is given: the key itself, or what a key in quotes stands for -/
def nameOf? (key : Text) : Option Text := if key.head? = some '"' then decoded? key else some key

theorem head?_of_isBare {name : Text} (h : isBare name = true) : name.head? ≠ some '"' := by
  obtain ⟨i, e, hi, _, rfl⟩ := exists_of_isBare h
  obtain ⟨c, t, rfl, hc⟩ := exists_cons_of_isIdentifier hi
  exact fun hquote => ne_of_isTail hc (by decide) (Option.some.inj hquote)

theorem nameOf?_ofName (name : Text) : nameOf? (ofName name) = some name := by
  unfold ofName
  split
  · rename_i hbare
    rw [nameOf?, if_neg (head?_of_isBare hbare)]
  · have hquote : (Json.literal false name).head? = some '"' := rfl
    rw [nameOf?, if_pos hquote]
    exact decoded?_literal name

theorem nodup_map_ofName {names : List Text} (h : names.Nodup) : (names.map ofName).Nodup :=
  h.map fun _ _ => ofName_inj

/-- a literal is nobody's key as it stands -/
theorem ofName_ne_of_literal {name other : Text} (hquoted : ofName name = Json.literal false name)
    (hself : ofName other = other) : ofName name ≠ ofName other := by
  intro heq
  obtain rfl := ofName_inj heq
  have hlength := length_of_decoded? (decoded?_literal name)
  rw [← hquoted, hself] at hlength
  exact Nat.lt_irrefl _ hlength

end Key

/-! ## names of entries -/

/-- the names of the entries of a section, in their order -/
def Outline.names (o : Outline) : Division → List Text
  | .tables => o.tables.map Outline.Table.name
  | .enums => o.enums.map Enum.name
  | .composites => o.composites.map Composite.name

/-- the names of the declarations that have entries in a section -/
def Schema.names (s : Schema) : Division → List Text
  | .tables => s.tables.map Table.name
  | .enums => (s.enums.filter fun x => !x.variants.isEmpty).map Enum.name
  | .composites => (s.composites.filter fun x => !x.members.isEmpty).map Composite.name

theorem Table.names_outline {ts : List Table} {us : List Outline.Table} (h : ts.mapM Table.outline = .ok us) :
    us.map Outline.Table.name = ts.map Table.name := by
  induction ts generalizing us with
  | nil =>
    cases h
    rfl
  | cons t ts ih =>
    obtain ⟨u, us, hu, hus, rfl⟩ := Outcome.mapM_cons_eq_ok_iff.mp h
    rw [List.map_cons, List.map_cons, ih hus, (Table.outline_eq_ok hu).1]

theorem Schema.names_outline {s : Schema} {o : Outline} (h : s.outline = .ok o) (d : Division) :
    (o.names d).Perm (s.names d) := by
  obtain ⟨_, _, htables, henums, hcomposites⟩ := Schema.outline_eq_ok h
  cases d with
  | tables =>
    show (o.tables.map Outline.Table.name).Perm (s.tables.map Table.name)
    rw [Table.names_outline htables]
    exact (Order.sorted_perm _ _).map Table.name
  | enums =>
    show (o.enums.map Enum.name).Perm _
    rw [henums]
    exact (Order.sorted_perm _ _).map Enum.name
  | composites =>
    show (o.composites.map Composite.name).Perm _
    rw [hcomposites]
    exact (Order.sorted_perm _ _).map Composite.name

/-! ## entries under keys -/

namespace Emission

/-- an entry stands under a key: there is a comment or nothing, and then the key and a colon -/
def Under (key entry : Text) : Prop :=
  ∃ above rest, entry = above ++ (entryIndent ++ key ++ ": " ++ rest)
    ∧ (above = [] ∨ ∃ body, Scan.Unending ('*' :: body)
      ∧ above = entryIndent ++ ('/' :: '*' :: ('*' :: body) ++ ['*', '/']) ++ ['\n'])

theorem Under.before {above : List Text} (ha : Sealed above) {node : Layout} {key rest : Text}
    (h : node.text = entryIndent ++ key ++ ": " ++ rest) : Under key (Layout.before above node entryIndent).text := by
  by_cases hnil : above = []
  · subst hnil
    exact ⟨[], rest, h, .inl rfl⟩
  · obtain ⟨body, hbody, e⟩ := (ha 6).resolve_left hnil
    refine ⟨_, rest, ?_, .inr ⟨body, hbody, rfl⟩⟩
    rw [Layout.text_before above node entryIndent hnil, h, entryIndent, e]

theorem text_braced (key : Text) (body : Layout) : (braced entryIndent key body).text
    = entryIndent ++ key ++ ": " ++ ("\x7b".toList ++ ['\n'] ++ body.text ++ ['\n'] ++ (entryIndent ++ "\x7d")) := by
  simp [braced, Layout.text]

theorem under_entryTexts (e : Emission) {o : Outline} (h : o.Keyed) (d : Division) :
    List.Forall₂ (fun name entry => Under (Key.ofName name) entry) (o.names d) (e.entryTexts o d) := by
  cases d with
  | tables =>
    refine List.forall₂_map_left_iff.mpr (List.forall₂_map_right_iff.mpr (List.forall₂_map_right_iff.mpr ?_))
    refine List.forall₂_same.mpr fun t ht => ?_
    rw [← h.tables t ht]
    exact .before (sealed_shown _ (sealed_ofLines _)) (text_braced t.key _)
  | enums =>
    refine List.forall₂_map_left_iff.mpr (List.forall₂_map_right_iff.mpr (List.forall₂_map_right_iff.mpr ?_))
    refine List.forall₂_same.mpr fun x hx => ?_
    rw [← h.enums x hx]
    exact .before (sealed_shown _ (sealed_ofEnum x)) rfl
  | composites =>
    refine List.forall₂_map_left_iff.mpr (List.forall₂_map_right_iff.mpr (List.forall₂_map_right_iff.mpr ?_))
    refine List.forall₂_same.mpr fun x hx => ?_
    rw [← h.composites x hx]
    exact .before sealed_nil (text_braced x.key _)

end Emission

/-- an output is made of entries, which stand under the keys of the names of its declarations -/
theorem Json.exists_entries {datamodel : Json} {documentation : Bool} {t : Text}
    (h : generateTypes datamodel documentation = .ok t) :
    ∃ (s : Schema) (blocks names : Division → List Text), Schema.ofJson datamodel = .ok s
      ∧ datamodel.entries documentation = .ok blocks ∧ t = (Division.page blocks).text
      ∧ ∀ d, (names d).Perm (s.names d)
        ∧ List.Forall₂ (fun name entry => Emission.Under (Key.ofName name) entry) (names d) (blocks d) := by
  obtain ⟨s, o, hs, ho, rfl⟩ := generateTypes_eq_ok_iff.mp h
  have hkeyed := (Schema.keyed_ofJson hs).outline ho
  refine ⟨s, Emission.entryTexts { documentation } o, o.names, hs, ?_, Emission.text_page_eq _ hkeyed, fun d => ?_⟩
  · exact Outcome.bind_eq_ok_iff.mpr ⟨s, hs, Outcome.map_eq_ok_iff.mpr ⟨o, ho, rfl⟩⟩
  · exact ⟨Schema.names_outline ho d, Emission.under_entryTexts _ hkeyed d⟩

/-- **Nothing is lost in a key.** The name is found again in its key, so names that differ have keys that differ, and
a key in quotes is not the key of another name that needs none; and in the output for a model the entries of a section
stand under keys that differ from each other if the names of its declarations do. -/
theorem Key.lossless :
    (∀ name, nameOf? (ofName name) = some name)
    ∧ (∀ names : List Text, names.Nodup → (names.map ofName).Nodup)
    ∧ (∀ name other, ofName name = Json.literal false name → ofName other = other → ofName name ≠ ofName other)
    ∧ ∀ (datamodel : Json) (documentation : Bool) (t : Text), generateTypes datamodel documentation = .ok t →
      ∃ (s : Schema) (blocks names : Division → List Text), Schema.ofJson datamodel = .ok s
        ∧ datamodel.entries documentation = .ok blocks ∧ t = (Division.page blocks).text
        ∧ ∀ d, (names d).Perm (s.names d)
          ∧ List.Forall₂ (fun name entry => Emission.Under (ofName name) entry) (names d) (blocks d)
          ∧ ((s.names d).Nodup → ((names d).map ofName).Nodup) := by
  refine ⟨nameOf?_ofName, fun names => nodup_map_ofName, fun name other => ofName_ne_of_literal, ?_⟩
  intro datamodel documentation t h
  obtain ⟨s, blocks, names, hs, hblocks, htext, hall⟩ := Json.exists_entries h
  refine ⟨s, blocks, names, hs, hblocks, htext, fun d => ?_⟩
  obtain ⟨hperm, hunder⟩ := hall d
  exact ⟨hperm, hunder, fun hnodup => nodup_map_ofName (hperm.nodup_iff.mpr hnodup)⟩

/-- names that look like the keys of each other -/
def Key.lookalikes : List Text := ["a", "\"a\"", "a\n", "\"a\\n\""]

/-- a model with a table for each of them -/
def Json.nested : Json := .object [("models", .list (Key.lookalikes.map fun name => .object [("name", .text name)]))]

theorem Key.lossless_nested :
    lookalikes.Nodup ∧ (lookalikes.map ofName).Nodup
    ∧ ofName "\"a\"" = Json.literal false "\"a\"" ∧ ofName "a" = "a" ∧ ofName "\"a\"" ≠ ofName "a"
    ∧ ∃ (t : Text) (s : Schema) (blocks names : Division → List Text), generateTypes .nested true = .ok t
      ∧ Schema.ofJson .nested = .ok s ∧ s.names .tables = lookalikes ∧ Json.entries .nested true = .ok blocks
      ∧ t = (Division.page blocks).text ∧ (names .tables).Perm lookalikes
      ∧ List.Forall₂ (fun name entry => Emission.Under (ofName name) entry) (names .tables) (blocks .tables)
      ∧ ((names .tables).map ofName).Nodup := by
  have hnodup : lookalikes.Nodup := by decide
  have hquoted : ofName "\"a\"" = Json.literal false "\"a\"" := by decide
  have hself : ofName "a" = "a" := by decide
  obtain ⟨_, hkeys, hne, houtput⟩ := Key.lossless
  obtain ⟨t, ht⟩ : ∃ t, generateTypes .nested true = .ok t := ⟨_, rfl⟩
  obtain ⟨s, blocks, names, hs, hblocks, htext, hall⟩ := houtput _ _ _ ht
  have hnames : s.names .tables = lookalikes := by
    cases hs
    rfl
  obtain ⟨hperm, hunder, hkeyed⟩ := hall .tables
  rw [hnames] at hperm hkeyed
  exact ⟨hnodup, hkeys _ hnodup, hquoted, hself, hne _ _ hquoted hself, t, s, blocks, names, ht, hs, hnames, hblocks,
    htext, hperm, hunder, hkeyed hnodup⟩

namespace Key

/-! ## exact keys -/

/-- a key is one token: an identifier, or a string literal -/
def IsToken (key : Text) : Prop := isIdentifier key = true ∨ ∃ name, Quoted.Literal '"' key name

/-- the key of a name is what it should be: the name itself exactly if that is an identifier, and otherwise a string
literal of it, which is one token and has none of the characters for which JSON has escapes only -/
structure Exact (name : Text) : Prop where
  self : ofName name = name ↔ isIdentifier name = true
  literal : isIdentifier name = false → decoded? (ofName name) = some name
  token : IsToken (ofName name)
  visible : ∀ c ∈ ofName name, 32 ≤ c.toNat

theorem isEndedIdentifier_iff {name : Text} :
    IsEndedIdentifier name ↔ ∃ i, isIdentifier i = true ∧ name = i ++ ['\n'] := by
  constructor
  · rintro ⟨hlast, hi⟩
    exact ⟨_, hi, (List.dropLast_append_getLast? '\n' hlast).symm⟩
  · rintro ⟨i, hi, rfl⟩
    exact ⟨List.getLast?_concat, by rwa [List.dropLast_concat]⟩

theorem ofName_of_isEndedIdentifier {name : Text} (h : IsEndedIdentifier name) : ofName name = name := by
  have hbare : isBare name = true := by simp [isBare, h.1, h.2]
  rw [ofName, if_pos hbare]

theorem not_isIdentifier_of_isEndedIdentifier {name : Text} (h : IsEndedIdentifier name) :
    isIdentifier name = false := by
  rw [← Bool.not_eq_true]
  exact fun hi => absurd (isTail_of_mem hi '\n' (List.mem_of_getLast? h.1)) (by decide)

theorem ofName_cases {name : Text} (h : ¬ IsEndedIdentifier name) :
    isIdentifier name = true ∧ ofName name = name
      ∨ isIdentifier name = false ∧ ofName name = Json.literal false name := by
  cases hi : isIdentifier name with
  | true => exact .inl ⟨rfl, ofName_of_isIdentifier hi⟩
  | false =>
    have hbare : ¬ isBare name = true := by
      intro hbare
      obtain ⟨i, e, hid, rfl | rfl, rfl⟩ := exists_of_isBare hbare
      · rw [List.append_nil, hid] at hi
        cases hi
      · exact h (isEndedIdentifier_iff.mpr ⟨i, hid, rfl⟩)
    exact .inr ⟨rfl, by rw [ofName, if_neg hbare]⟩

theorem visible_literalChar (c : Char) : ∀ d ∈ Json.literalChar false c, 32 ≤ d.toNat := by
  intro d hd
  rcases Json.literalChar_eq c with ⟨e, he, htext⟩ | ⟨_, htext⟩ | ⟨hc, _, _, htext⟩ <;> rw [htext] at hd
  · have hall : ∀ p ∈ Json.escapes, 32 ≤ p.2.toNat := by decide
    rcases List.mem_cons.mp hd with rfl | hd
    · decide
    · rw [List.mem_singleton.mp hd]
      exact hall _ he
  · rcases List.mem_cons.mp hd with rfl | hd
    · decide
    rcases List.mem_cons.mp hd with rfl | hd
    · decide
    obtain ⟨n, rfl⟩ := Text.exists_of_mem_hexadecimal hd
    have hall : ∀ m < 16, 32 ≤ (Nat.digitChar m).toNat := by decide
    exact hall (n % 16) (Nat.mod_lt _ (by decide))
  · rw [List.mem_singleton.mp hd]
    exact hc

theorem visible_literal (name : Text) : ∀ c ∈ Json.literal false name, 32 ≤ c.toNat := by
  intro c hc
  rcases List.mem_cons.mp hc with rfl | hc
  · decide
  rcases List.mem_append.mp hc with hc | hc
  · obtain ⟨d, _, hc⟩ := List.mem_flatMap.mp hc
    exact visible_literalChar d c hc
  · rw [List.mem_singleton.mp hc]
    decide

theorem exact_of {name : Text} (h : ¬ IsEndedIdentifier name) : Exact name := by
  rcases ofName_cases h with ⟨hi, hkey⟩ | ⟨hi, hkey⟩
  · refine ⟨⟨fun _ => hi, fun _ => hkey⟩, fun hno => ?_, .inl (by rwa [hkey]), fun c hc => ?_⟩
    · rw [hi] at hno
      cases hno
    · rw [hkey] at hc
      exact Nat.le_of_lt (toNat_of_isTail (isTail_of_mem hi c hc)).1
  · refine ⟨⟨fun hself => ?_, fun hid => ?_⟩, fun _ => ?_, .inr ⟨name, ?_⟩, ?_⟩
    · -- a literal is longer than what it stands for
      have hlength := length_of_decoded? (decoded?_literal name)
      rw [← hkey, hself] at hlength
      exact absurd hlength (Nat.lt_irrefl _)
    · rw [hi] at hid
      cases hid
    · rw [hkey]
      exact decoded?_literal name
    · rw [hkey]
      exact Quoted.literal_json name
    · rw [hkey]
      exact visible_literal name

/-! ## properties -/

/-- what a reader of the output takes a key for: a token that names a property, and white space after it -/
def Denotes (key property : Text) : Prop :=
  ∃ token space, key = token ++ space ∧ space.all Json.isSpace = true
    ∧ (isIdentifier token = true ∧ token = property ∨ Quoted.Literal '"' token property)

theorem not_isTail_of_isSpace {space : Text} (h : space.all Json.isSpace = true) :
    ∀ c ∈ space.head?, isTail c = false := by
  intro c hc
  have hspace := List.all_eq_true.mp h c (List.mem_of_mem_head? hc)
  simp only [Json.isSpace, Bool.or_eq_true, beq_iff_eq] at hspace
  rcases hspace with ((rfl | rfl) | rfl) | rfl <;> decide

theorem denotes_identifier_iff {i space property : Text} (hi : isIdentifier i = true)
    (hspace : space.all Json.isSpace = true) : Denotes (i ++ space) property ↔ property = i := by
  constructor
  · rintro ⟨token, rest, htext, hrest, ⟨htoken, rfl⟩ | ⟨t, rfl, _⟩⟩
    · exact (settles_identifier htoken hi (not_isTail_of_isSpace hrest) (not_isTail_of_isSpace hspace) htext.symm).1
    · obtain ⟨c, j, rfl, hc⟩ := exists_cons_of_isIdentifier hi
      exact absurd (List.cons.inj htext).1 (ne_of_isTail hc (by decide))
  · rintro rfl
    exact ⟨_, space, rfl, hspace, .inl ⟨hi, rfl⟩⟩

theorem denotes_literal_iff {name property : Text} : Denotes (Json.literal false name) property ↔ property = name := by
  constructor
  · rintro ⟨token, space, htext, hspace, htoken⟩
    -- the quote at the end is no white space
    have hlast : (Json.literal false name).getLast? = some '"' := List.getLast?_concat (l := '"' :: _)
    have hnil : space = [] := by
      rcases List.eq_nil_or_concat' space with rfl | ⟨init, c, rfl⟩
      · rfl
      · rw [htext, ← List.append_assoc, List.getLast?_concat] at hlast
        obtain rfl : c = '"' := Option.some.inj hlast
        exact absurd (List.all_eq_true.mp hspace '"' (List.mem_append_right _ List.mem_cons_self)) (by decide)
    rw [hnil, List.append_nil] at htext
    rcases htoken with ⟨hi, rfl⟩ | hliteral
    · rw [← htext] at hi
      cases hi
    · rw [← htext] at hliteral
      exact hliteral.unique (Quoted.literal_json name)
  · rintro rfl
    exact ⟨_, [], (List.append_nil _).symm, rfl, .inr (Quoted.literal_json _)⟩

/-- the key of a name names the name, and if that is an identifier with a line feed after it, the identifier -/
theorem denotes_ofName_iff {name property : Text} : Denotes (ofName name) property
    ↔ ¬ IsEndedIdentifier name ∧ name = property ∨ isIdentifier property = true ∧ name = property ++ ['\n'] := by
  by_cases h : IsEndedIdentifier name
  · rw [ofName_of_isEndedIdentifier h]
    obtain ⟨i, hi, rfl⟩ := isEndedIdentifier_iff.mp h
    rw [denotes_identifier_iff hi (by decide)]
    constructor
    · rintro rfl
      exact .inr ⟨hi, rfl⟩
    · rintro (⟨hno, _⟩ | ⟨_, e⟩)
      · exact absurd h hno
      · exact (List.append_cancel_right e).symm
  · have hiff : Denotes (ofName name) property ↔ property = name := by
      rcases ofName_cases h with ⟨hi, hkey⟩ | ⟨_, hkey⟩ <;> rw [hkey]
      · have hdenotes : Denotes (name ++ []) property ↔ property = name := denotes_identifier_iff hi rfl
        rwa [List.append_nil] at hdenotes
      · exact denotes_literal_iff
    rw [hiff]
    constructor
    · rintro rfl
      exact .inl ⟨h, rfl⟩
    · rintro (⟨_, rfl⟩ | ⟨hi, rfl⟩)
      · rfl
      · exact absurd (isEndedIdentifier_iff.mpr ⟨property, hi, rfl⟩) h

/-- two keys name the same property only if the names are the same or differ by a line feed after an identifier -/
theorem denotes_same_iff {name other : Text} :
    (∃ property, Denotes (ofName name) property ∧ Denotes (ofName other) property)
      ↔ name = other ∨ isIdentifier other = true ∧ name = other ++ ['\n']
        ∨ isIdentifier name = true ∧ other = name ++ ['\n'] := by
  simp only [denotes_ofName_iff]
  have hself {i : Text} (hi : isIdentifier i = true) : ¬ IsEndedIdentifier i := fun h => by
    rw [not_isIdentifier_of_isEndedIdentifier h] at hi
    cases hi
  constructor
  · rintro ⟨p, ⟨_, rfl⟩ | ⟨hp, rfl⟩, ⟨_, rfl⟩ | ⟨_, rfl⟩⟩
    · exact .inl rfl
    · exact .inr (.inr ⟨‹_›, rfl⟩)
    · exact .inr (.inl ⟨hp, rfl⟩)
    · exact .inl rfl
  · rintro (rfl | ⟨hi, rfl⟩ | ⟨hi, rfl⟩)
    · by_cases h : IsEndedIdentifier name
      · obtain ⟨i, hi, rfl⟩ := isEndedIdentifier_iff.mp h
        exact ⟨i, .inr ⟨hi, rfl⟩, .inr ⟨hi, rfl⟩⟩
      · exact ⟨name, .inl ⟨h, rfl⟩, .inl ⟨h, rfl⟩⟩
    · exact ⟨other, .inr ⟨hi, rfl⟩, .inl ⟨hself hi, rfl⟩⟩
    · exact ⟨name, .inl ⟨hself hi, rfl⟩, .inr ⟨hi, rfl⟩⟩

/-- **Which keys are exact.** The key of a name is the name itself if that is an identifier, and otherwise a string
literal of it; it is one token without control characters, and it names the same property as the key of another name
only if the names are the same.  The names that are identifiers with line feeds after them are the exception: they are
their own keys, and name the properties of the identifiers.  The entries of an output stand under such keys. -/
theorem exact_iff (name other : Text) :
    (Exact name ↔ ¬ IsEndedIdentifier name)
    ∧ (ofName name = name ↔ isIdentifier name = true ∨ IsEndedIdentifier name)
    ∧ ((∃ property, Denotes (ofName name) property ∧ Denotes (ofName other) property)
      ↔ name = other ∨ isIdentifier other = true ∧ name = other ++ ['\n']
        ∨ isIdentifier name = true ∧ other = name ++ ['\n'])
    ∧ ∀ (datamodel : Json) (documentation : Bool) (t : Text), generateTypes datamodel documentation = .ok t →
      ∃ (s : Schema) (blocks names : Division → List Text), Schema.ofJson datamodel = .ok s
        ∧ datamodel.entries documentation = .ok blocks ∧ t = (Division.page blocks).text
        ∧ ∀ d, (names d).Perm (s.names d)
          ∧ List.Forall₂ (fun name entry => Emission.Under (ofName name) entry) (names d) (blocks d) := by
  have hexact : Exact name ↔ ¬ IsEndedIdentifier name := by
    refine ⟨fun h hended => ?_, exact_of⟩
    have hi := h.self.mp (ofName_of_isEndedIdentifier hended)
    rw [not_isIdentifier_of_isEndedIdentifier hended] at hi
    cases hi
  refine ⟨hexact, ⟨fun hself => ?_, ?_⟩, denotes_same_iff, fun _ _ _ => Json.exists_entries⟩
  · by_cases hended : IsEndedIdentifier name
    · exact .inr hended
    · exact .inl ((exact_of hended).self.mp hself)
  · rintro (hi | hended)
    · exact ofName_of_isIdentifier hi
    · exact ofName_of_isEndedIdentifier hended

theorem exact_iff_hyphenated : ¬ IsEndedIdentifier "order-line" ∧ Exact "order-line"
    ∧ ¬ (∃ property, Denotes (ofName "order-line") property ∧ Denotes (ofName "orderLine") property)
    ∧ ∃ (t : Text) (s : Schema) (blocks names : Division → List Text), generateTypes .hyphenated true = .ok t
      ∧ Schema.ofJson .hyphenated = .ok s ∧ s.names .tables = ["order-line".toList]
      ∧ Json.entries .hyphenated true = .ok blocks ∧ t = (Division.page blocks).text
      ∧ (names .tables).Perm (s.names .tables)
      ∧ List.Forall₂ (fun name entry => Emission.Under (ofName name) entry) (names .tables) (blocks .tables) := by
  obtain ⟨hexact, _, hsame, houtput⟩ := exact_iff "order-line" "orderLine"
  have hended : ¬ IsEndedIdentifier "order-line" := by
    rintro ⟨hlast, _⟩
    exact absurd hlast (by decide)
  obtain ⟨t, ht⟩ : ∃ t, generateTypes .hyphenated true = .ok t := ⟨_, rfl⟩
  obtain ⟨s, blocks, names, hs, hblocks, htext, hall⟩ := houtput _ _ _ ht
  have hnames : s.names .tables = ["order-line".toList] := by
    cases hs
    rfl
  exact ⟨hended, hexact.mpr hended, hsame.not.mpr (by decide), t, s, blocks, names, ht, hs, hnames, hblocks, htext,
    (hall .tables).1, (hall .tables).2⟩

/-- a model with two tables whose names differ by a line feed -/
def endedModel : Json :=
  .object [("models", .list [.object [("name", "User")], .object [("name", "User\n")]])]

/-- an identifier with a line feed after it is its own key and neither an identifier nor a literal, and it names the
property of the identifier -/
theorem ended_not_exact : ¬ Exact "User\n" ∧ isIdentifier "User\n" = false ∧ ofName "User\n" = "User\n"
    ∧ decoded? (ofName "User\n") = none ∧ ¬ IsToken (ofName "User\n") ∧ '\n' ∈ ofName "User\n"
    ∧ ("User" : Text) ≠ "User\n" ∧ Denotes (ofName "User") "User" ∧ Denotes (ofName "User\n") "User"
    ∧ ∃ s o, Schema.ofJson endedModel = .ok s ∧ s.outline = .ok o
      ∧ generateTypes endedModel true = .ok (Emission.page {} o).text
      ∧ o.tables.map Outline.Table.key = ["User".toList, "User\n".toList] := by
  have hself : ofName "User\n" = "User\n" := by decide
  have hid : isIdentifier "User\n" = false := by decide
  refine ⟨fun h => ?_, hid, hself, by decide, ?_, by decide, by decide, ?_, ?_, _, _, rfl, rfl, rfl, rfl⟩
  · rw [h.self.mp hself] at hid
    cases hid
  · rintro (hi | ⟨name, t, htext, _⟩)
    · exact absurd hi (by decide)
    · rw [hself] at htext
      exact absurd (List.cons.inj htext).1 (by decide)
  · exact denotes_ofName_iff.mpr (.inl ⟨fun h => absurd h.1 (by decide), rfl⟩)
  · exact denotes_ofName_iff.mpr (.inr ⟨by decide, rfl⟩)

end Key
end DatabaseTypes
