import DatabaseTypes.Proofs.Lines
import DatabaseTypes.Schema.Reading

/-!
# The lines of documentation

Documentation is kept in a normal form: lines without white space at their ends, of which neither the first nor the
last is empty.  Nothing but white space is lost on the way there, and reading what is kept once more changes nothing.

* `Documentation.IsNormal`     the normal form
* `Documentation.Given`        the lines that a model gives
* `Documentation.isNormal_ofLines`, `Documentation.IsNormal.ofLines_eq`   it is reached, and left as it is
* `Documentation.ofJson_normal`   the documentation that is read
-/

namespace DatabaseTypes.Documentation

open Text (IsLine IsTrimmed inked)

/-- lines without white space at their ends, of which neither the first nor the last is empty -/
structure IsNormal (ls : List Text) : Prop where
  trimmed : ∀ l ∈ ls, IsTrimmed l
  first : ls.head? ≠ some []
  last : ls.getLast? ≠ some []

/-! ## the frame -/

theorem withoutLastBlanks_eq (ls : List Text) : withoutLastBlanks ls = ls.rdropWhile List.isEmpty := rfl

theorem framed_subset (ls : List Text) : framed ls ⊆ ls :=
  ((List.dropWhile_sublist _).trans (List.rdropWhile_prefix _ ls).sublist).subset

theorem flatten_framed (ls : List Text) : (framed ls).flatten = ls.flatten := by
  have hfront (ms : List Text) : (ms.dropWhile List.isEmpty).flatten = ms.flatten := by
    induction ms with
    | nil => rfl
    | cons m ms ih =>
      rw [List.dropWhile_cons]
      split
      · rename_i hm
        rw [ih, List.flatten_cons, List.isEmpty_iff.mp hm, List.nil_append]
      · rfl
  rw [framed, hfront, withoutLastBlanks_eq, Text.flatten_rdropWhile]

theorem framed_eq_nil_iff (ls : List Text) : framed ls = [] ↔ ∀ l ∈ ls, l = [] := by
  constructor
  · intro h
    have hflat := flatten_framed ls
    rw [h, List.flatten_nil] at hflat
    exact List.flatten_eq_nil_iff.mp hflat.symm
  · intro h
    have hdrop : withoutLastBlanks ls = [] :=
      List.rdropWhile_eq_nil_iff.mpr fun l hl => List.isEmpty_iff.mpr (h l hl)
    rw [framed, hdrop]
    rfl

theorem head?_framed (ls : List Text) : (framed ls).head? ≠ some [] := by
  intro h
  have hhead := List.head?_dropWhile_not List.isEmpty (withoutLastBlanks ls)
  rw [show (withoutLastBlanks ls).dropWhile List.isEmpty = framed ls from rfl, h] at hhead
  cases hhead

theorem getLast?_framed (ls : List Text) : (framed ls).getLast? ≠ some [] := by
  intro h
  obtain ⟨front, e⟩ : framed ls <:+ withoutLastBlanks ls := List.dropWhile_suffix _
  refine Text.getLast?_rdropWhile ls ?_
  rw [← withoutLastBlanks_eq, ← e, List.getLast?_append, h]
  rfl

/-! ## the normal form -/

theorem isNormal_ofLines (ls : List Text) : IsNormal (ofLines ls) := by
  refine ⟨fun l hl => ?_, head?_framed _, getLast?_framed _⟩
  obtain ⟨m, _, rfl⟩ := List.mem_map.mp (framed_subset _ hl)
  exact Text.isTrimmed_trimEnd m

theorem IsNormal.ofLines_eq {ls : List Text} (h : IsNormal ls) : ofLines ls = ls := by
  rw [ofLines, Text.map_trimEnd_eq h.trimmed, framed, withoutLastBlanks_eq, Text.rdropWhile_eq h.last]
  cases ls with
  | nil => rfl
  | cons l ls =>
    refine List.dropWhile_cons_of_neg fun hempty => h.first ?_
    rw [List.head?_cons, List.isEmpty_iff.mp hempty]

theorem inked_ofLines (ls : List Text) : inked (ofLines ls).flatten = inked ls.flatten := by
  rw [ofLines, flatten_framed, Text.inked_flatten_trimEnd]

/-- nothing is left of blank lines, and of no others -/
theorem ofLines_eq_nil_iff (ls : List Text) : ofLines ls = [] ↔ ∀ l ∈ ls, l.allBlank = true := by
  rw [ofLines, framed_eq_nil_iff, List.forall_mem_map]
  exact forall₂_congr fun l _ => Text.trimEnd_eq_nil_iff l

theorem isLine_of_mem_ofLines {ls : List Text} (h : ∀ l ∈ ls, IsLine l) : ∀ l ∈ ofLines ls, IsLine l := by
  intro l hl
  obtain ⟨m, hm, rfl⟩ := List.mem_map.mp (framed_subset _ hl)
  exact (h m hm).trimEnd

theorem isLine_of_mem_ofText {t l : Text} (h : l ∈ ofText t) : IsLine l :=
  isLine_of_mem_ofLines (fun _ => Text.isLine_of_mem_lines) l h

/-! ## reading -/

/-- these are the lines that a model gives: none, those of a text, or what the items of a list or the keys of an
object are displayed as -/
inductive Given : Option Json → List Text → Prop
  | absent : Given none []
  | null : Given (some .null) []
  | text (t : Text) : Given (some (.text t)) t.lines
  | list (items : List Json) : Given (some (.list items)) (items.map Json.display)
  | object (members : List (Text × Json)) : Given (some (.object members)) (members.map Prod.fst)

/-- whatever gives lines is read, and nothing else is -/
theorem ofJson_eq_ok_iff {raw : Option Json} {ls : List Text} :
    ofJson raw = .ok ls ↔ ∃ lines, Given raw lines ∧ ls = ofLines lines := by
  constructor
  · intro h
    cases raw with
    | none => cases h; exact ⟨[], .absent, rfl⟩
    | some v =>
      cases v with
      | null => cases h; exact ⟨[], .null, rfl⟩
      | text t => cases h; exact ⟨_, .text t, rfl⟩
      | list items => cases h; exact ⟨_, .list items, rfl⟩
      | object members =>
        cases h
        refine ⟨_, .object members, congrArg ofLines ?_⟩
        rw [List.map_map]
        rfl
      | bool | int | float => cases h
  · rintro ⟨lines, h, rfl⟩
    cases h with
    | absent | null | text | list => rfl
    | object members =>
      show Except.ok (ofLines ((members.map fun m => Json.text m.1).map Json.display)) = _
      rw [List.map_map]
      rfl

theorem ofJson_text (t : Text) : ofJson (some (.text t)) = .ok (ofText t) := rfl

theorem ofJson_list_text (ls : List Text) : ofJson (some (.list (ls.map .text))) = .ok (ofLines ls) := by
  refine ofJson_eq_ok_iff.mpr ⟨_, .list _, congrArg ofLines ?_⟩
  rw [List.map_map]
  exact (List.map_id ls).symm

/-- **Documentation is kept in a normal form.** A text is read as lines in normal form, in none of which a line ends and
which have the characters of the text that are no white space, in their order; put together with line feeds they are
read as the same lines.  Whatever else is read, a list of the lines that are kept is read as the same lines, and there
are none exactly if every line that is given is blank. -/
theorem ofJson_normal (t : Text) {raw : Option Json} {lines : List Text} (h : Given raw lines) :
    (∃ ls, ofJson (some (.text t)) = .ok ls ∧ (∀ l ∈ ls, IsLine l) ∧ IsNormal ls ∧ inked ls.flatten = inked t
      ∧ ofJson (some (.text (Text.joined ['\n'] ls))) = .ok ls)
    ∧ ∃ ls, ofJson raw = .ok ls ∧ ofJson (some (.list (ls.map .text))) = .ok ls
      ∧ (ls = [] ↔ ∀ l ∈ lines, l.allBlank = true) := by
  constructor
  · have hlines : ∀ l ∈ ofText t, IsLine l := fun l => isLine_of_mem_ofText
    have hnormal : IsNormal (ofText t) := isNormal_ofLines t.lines
    refine ⟨ofText t, ofJson_text t, hlines, hnormal, ?_, ?_⟩
    · rw [ofText, inked_ofLines, Text.inked_lines]
    · rw [ofJson_text, ofText, Text.lines_joined hlines hnormal.last, hnormal.ofLines_eq]
  · refine ⟨ofLines lines, ofJson_eq_ok_iff.mpr ⟨lines, h, rfl⟩, ?_, ofLines_eq_nil_iff lines⟩
    rw [ofJson_list_text, (isNormal_ofLines lines).ofLines_eq]

/-- a text with line ends of many kinds, and a list with values of many kinds -/
theorem ofJson_normal_mixed :
    Given (some (.list [.text "\x1f", .null, .text "a\n \n", .list [.text "b"], .text "\u2029"]))
      ["\x1f", "None", "a\n \n", "['b']", "\u2029"]
    ∧ (∃ ls, ofJson (some (.text "\r\n\x1c a\x1f\r\n\u00a0\u2028b\u0085\x0b")) = .ok ls ∧ (∀ l ∈ ls, IsLine l)
      ∧ IsNormal ls ∧ inked ls.flatten = inked "\r\n\x1c a\x1f\r\n\u00a0\u2028b\u0085\x0b"
      ∧ ofJson (some (.text (Text.joined ['\n'] ls))) = .ok ls)
    ∧ ∃ ls, ofJson (some (.list [.text "\x1f", .null, .text "a\n \n", .list [.text "b"], .text "\u2029"])) = .ok ls
      ∧ ofJson (some (.list (ls.map .text))) = .ok ls
      ∧ (ls = [] ↔ ∀ l ∈ (["\x1f", "None", "a\n \n", "['b']", "\u2029"] : List Text), l.allBlank = true) := by
  have h : Given (some (.list [.text "\x1f", .null, .text "a\n \n", .list [.text "b"], .text "\u2029"]))
      ["\x1f", "None", "a\n \n", "['b']", "\u2029"] := .list _
  exact ⟨h, ofJson_normal "\r\n\x1c a\x1f\r\n\u00a0\u2028b\u0085\x0b" h⟩

example : ofText "\r\n\x1c a\x1f\r\n\u00a0\u2028b\u0085\x0b" = [" a", "", "b"] := by decide

end DatabaseTypes.Documentation
