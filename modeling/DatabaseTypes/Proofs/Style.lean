import DatabaseTypes.Formatter
import DatabaseTypes.Proofs.Path
import DatabaseTypes.Proofs.Lines

/-!
# The built-in style

Every text has one text in the built-in style: line feeds alone end its lines, exactly one stands at its end, and no
line ends in white space.  White space at the ends of lines and empty lines at the end are all that is lost.

* `Style.IsTidy`         a text in the built-in style
* `Style.Tidies`         such a text and the one that it is made of
* `Style.tidied_eq_iff`  the texts in the built-in style are those that stay as they are
* `Style.tidies_tidied`  the built-in style is reached, and reached at once
-/

namespace DatabaseTypes

namespace Text

theorem subset_of_mem_split {c : Char} {t u : Text} (h : u ∈ split c t) : u ⊆ t := by
  have hsub : u ⊆ joined [c] (split c t) := (isInfix_joined h).subset
  rwa [joined_split] at hsub

/-- the lines of a text are its pieces, if line feeds alone end them -/
theorem lines_eq_split {t : Text} (h : ∀ c ∈ t, isLineBreak c = true → c = '\n') :
    lines (t ++ ['\n']) = split '\n' t ∧ ∀ l ∈ split '\n' t, IsLine l := by
  have hlines : ∀ l ∈ split '\n' t, IsLine l := by
    intro l hl c hc
    by_contra hbreak
    have e := h c (subset_of_mem_split hl hc) (Bool.not_eq_false _ ▸ hbreak)
    exact notMem_of_mem_split hl (e ▸ hc)
  have e := lines_ended hlines (split_ne_nil '\n' t)
  rw [joined_split] at e
  exact ⟨e, hlines⟩

end Text

namespace Style

open Text (IsLine IsTrimmed)

/-- a text in the built-in style -/
structure IsTidy (u : Text) : Prop where
  /-- one line feed at the end, and not two -/
  ended : ∃ body, u = body ++ ['\n'] ∧ body.getLast? ≠ some '\n'
  breaks : ∀ c ∈ u, Text.isLineBreak c = true → c = '\n'
  trimmed : ∀ l ∈ u.lines, IsTrimmed l

/-- lines that are laid out as a text in the built-in style: the last has characters, unless it is the only one -/
structure AreTidy (ls : List Text) : Prop where
  ne_nil : ls ≠ []
  line : ∀ l ∈ ls, IsLine l
  trimmed : ∀ l ∈ ls, IsTrimmed l
  last : ls = [[]] ∨ ls.getLast? ≠ some []

theorem AreTidy.isTidy {ls : List Text} (h : AreTidy ls) : IsTidy (Text.joined ['\n'] ls ++ ['\n']) where
  ended := by
    refine ⟨_, rfl, fun hlast => ?_⟩
    -- a line feed before the last one would be the end of the last line
    obtain ⟨ms, m, rfl⟩ : ∃ ms m, ls = ms ++ [m] := ⟨_, _, (List.dropLast_concat_getLast h.ne_nil).symm⟩
    rcases h.last with e | hm
    · rw [e] at hlast
      cases hlast
    · rw [List.getLast?_concat] at hm
      have hend : m.getLast? = some '\n' := by
        by_cases e : ms = []
        · rwa [e, List.nil_append, Text.joined_single] at hlast
        · rw [Text.joined_append _ _ _ e (List.cons_ne_nil _ _), Text.joined_single, List.getLast?_append] at hlast
          cases hd : m.getLast? with
          | none => exact absurd (congrArg some (List.getLast?_eq_none_iff.mp hd)) hm
          | some d => rwa [hd] at hlast
      have := h.line m (List.mem_concat_self) '\n' (List.mem_of_getLast? hend)
      cases this
  breaks c hc hbreak := by
    rcases List.mem_append.mp hc with hc | hc
    · rcases Text.exists_of_mem_joined hc with hc | ⟨l, hl, hc⟩
      · exact List.mem_singleton.mp hc
      · rw [h.line l hl c hc] at hbreak
        cases hbreak
    · exact List.mem_singleton.mp hc
  trimmed := by
    rw [Text.lines_ended h.line h.ne_nil]
    exact h.trimmed

theorem IsTidy.exists_areTidy {u : Text} (h : IsTidy u) :
    ∃ ls, AreTidy ls ∧ u = Text.joined ['\n'] ls ++ ['\n'] := by
  obtain ⟨body, rfl, hend⟩ := h.ended
  obtain ⟨e, hlines⟩ := Text.lines_eq_split fun c hc => h.breaks c (List.mem_append_left _ hc)
  have hsplit := Text.joined_split '\n' body
  refine ⟨Text.split '\n' body, ⟨Text.split_ne_nil _ _, hlines, e ▸ h.trimmed, ?_⟩, by rw [hsplit]⟩
  by_contra hlast
  obtain ⟨hne, hlast⟩ := not_or.mp hlast
  obtain ⟨ms, e⟩ := List.getLast?_eq_some_iff.mp (not_not.mp hlast)
  rw [e] at hne hsplit
  have hms : ms ≠ [] := by
    rintro rfl
    exact hne rfl
  -- the body would end with the line feed before its last piece
  refine hend ?_
  rw [← hsplit, Text.joined_append _ _ _ hms (List.cons_ne_nil _ _), Text.joined_single, List.append_nil,
    List.getLast?_concat]

/-! ## what the built-in style does -/

theorem withoutEmptyEnd_eq (ls : List Text) : withoutEmptyEnd ls = ls.rdropWhile List.isEmpty := rfl

theorem withoutEmptyEnd_append_replicate (ls : List Text) (n : Nat) :
    withoutEmptyEnd (ls ++ List.replicate n []) = withoutEmptyEnd ls := by
  induction n with
  | zero => rw [List.replicate_zero, List.append_nil]
  | succ n ih =>
    rw [List.replicate_succ', ← List.append_assoc, withoutEmptyEnd_eq, List.rdropWhile_concat_pos _ _ _ rfl]
    exact ih

theorem joined_withoutEmptyEnd {ls : List Text} (h : AreTidy ls) :
    Text.joined ['\n'] (withoutEmptyEnd ls) = Text.joined ['\n'] ls := by
  rcases h.last with rfl | hlast
  · rfl
  · rw [withoutEmptyEnd_eq, Text.rdropWhile_eq hlast]

theorem joined_append_replicate {ls : List Text} (hne : ls ≠ []) (n : Nat) :
    Text.joined ['\n'] (ls ++ List.replicate n []) = Text.joined ['\n'] ls ++ List.replicate n '\n' := by
  induction n with
  | zero => rw [List.replicate_zero, List.replicate_zero, List.append_nil, List.append_nil]
  | succ n ih =>
    rw [List.replicate_succ', List.replicate_succ', ← List.append_assoc, ← List.append_assoc,
      Text.joined_append _ _ _ (List.append_ne_nil_of_left_ne_nil hne _) (List.cons_ne_nil _ _), ih, Text.joined_single,
      List.append_nil]

/-- lines in the built-in style stay as they are, and one line feed alone is left after them -/
theorem tidied_ended {ls : List Text} (h : AreTidy ls) (n : Nat) :
    tidied (Text.joined ['\n'] ls ++ List.replicate n '\n' ++ ['\n']) = Text.joined ['\n'] ls ++ ['\n'] := by
  have hline : ∀ l ∈ ls ++ List.replicate n [], IsLine l ∧ IsTrimmed l := by
    intro l hl
    rcases List.mem_append.mp hl with hl | hl
    · exact ⟨h.line l hl, h.trimmed l hl⟩
    · rw [List.eq_of_mem_replicate hl]
      exact ⟨Text.isLine_nil, nofun⟩
  rw [tidied, ← joined_append_replicate h.ne_nil, Text.lines_ended (fun l hl => (hline l hl).1)
    (List.append_ne_nil_of_left_ne_nil h.ne_nil _), Text.map_trimEnd_eq fun l hl => (hline l hl).2,
    withoutEmptyEnd_append_replicate, joined_withoutEmptyEnd h]

theorem areTidy_or_eq_nil (t : Text) :
    withoutEmptyEnd (t.lines.map Text.trimEnd) = [] ∨ AreTidy (withoutEmptyEnd (t.lines.map Text.trimEnd)) := by
  by_cases hne : withoutEmptyEnd (t.lines.map Text.trimEnd) = []
  · exact .inl hne
  · have hmem : ∀ l ∈ withoutEmptyEnd (t.lines.map Text.trimEnd), IsLine l ∧ IsTrimmed l := by
      intro l hl
      obtain ⟨m, hm, rfl⟩ := List.mem_map.mp ((List.rdropWhile_prefix List.isEmpty _).subset hl)
      exact ⟨(Text.isLine_of_mem_lines hm).trimEnd, Text.isTrimmed_trimEnd m⟩
    exact .inr ⟨hne, fun l hl => (hmem l hl).1, fun l hl => (hmem l hl).2, .inr (Text.getLast?_rdropWhile _)⟩

/-- a text in the built-in style has the trimmed lines of the text that it is made of, from the first on -/
theorem exists_tidied (t : Text) : ∃ ls, AreTidy ls ∧ tidied t = Text.joined ['\n'] ls ++ ['\n']
    ∧ withoutEmptyEnd (t.lines.map Text.trimEnd) <+: ls := by
  rcases areTidy_or_eq_nil t with e | h
  · refine ⟨[[]], ⟨by decide, ?_, ?_, .inl rfl⟩, by rw [tidied, e]; rfl, by rw [e]; exact List.nil_prefix⟩
    · exact List.forall_mem_singleton.mpr Text.isLine_nil
    · exact List.forall_mem_singleton.mpr nofun
  · exact ⟨_, h, rfl, List.prefix_rfl⟩

theorem isTidy_tidied (t : Text) : IsTidy (tidied t) := by
  obtain ⟨ls, h, e, _⟩ := exists_tidied t
  rw [e]
  exact h.isTidy

/-- line feeds after the last one are all that is lost of a text in the built-in style -/
theorem IsTidy.tidied_append {u : Text} (h : IsTidy u) (n : Nat) : tidied (u ++ List.replicate n '\n') = u := by
  obtain ⟨ls, hls, rfl⟩ := h.exists_areTidy
  rw [List.append_assoc, List.singleton_append, ← List.replicate_succ, List.replicate_succ', ← List.append_assoc]
  exact tidied_ended hls n

theorem tidied_eq_iff {u : Text} : tidied u = u ↔ IsTidy u := by
  constructor
  · intro e
    exact e ▸ isTidy_tidied u
  · intro h
    have e := h.tidied_append 0
    rwa [List.replicate_zero, List.append_nil] at e

/-! ## what is kept -/

theorem inked_tidied (t : Text) : Text.inked (tidied t) = Text.inked t := by
  rw [tidied, Text.inked_append, Text.inked_joined (by decide), withoutEmptyEnd_eq, Text.flatten_rdropWhile,
    Text.inked_flatten_trimEnd, Text.inked_lines, Text.inked_of_allBlank (t := ['\n']) (by decide), List.append_nil]

/-- a line stays where it is, trimmed, if it or a line after it is not blank -/
theorem lines_tidied {t : Text} {i : Nat} {l : Text} (hl : t.lines[i]? = some l)
    (hink : ∃ m ∈ t.lines.drop i, m.allBlank = false) : (tidied t).lines[i]? = some l.trimEnd := by
  obtain ⟨ls, h, e, rest, hls⟩ := exists_tidied t
  obtain ⟨n, hsplit⟩ := Text.exists_rdropWhile (t.lines.map Text.trimEnd)
  rw [← withoutEmptyEnd_eq] at hsplit
  -- no line that is dropped stands before one that is not blank
  have hi : i < (withoutEmptyEnd (t.lines.map Text.trimEnd)).length := by
    by_contra hlen
    obtain ⟨m, hm, hmink⟩ := hink
    have hdrop : m.trimEnd ∈ (t.lines.map Text.trimEnd).drop i := List.map_drop ▸ List.mem_map_of_mem hm
    rw [hsplit, List.drop_append, List.drop_of_length_le (Nat.not_lt.mp hlen), List.nil_append] at hdrop
    have hempty := List.eq_of_mem_replicate (List.mem_of_mem_drop hdrop)
    rw [(Text.trimEnd_eq_nil_iff m).mp hempty] at hmink
    cases hmink
  have htrimmed : (t.lines.map Text.trimEnd)[i]? = some l.trimEnd := by rw [List.getElem?_map, hl, Option.map_some]
  rw [hsplit, List.getElem?_append_left hi] at htrimmed
  rw [e, Text.lines_ended h.line h.ne_nil, ← hls, List.getElem?_append_left hi, htrimmed]

/-- a text in the built-in style and the one that it is made of: white space at the ends of lines and blank lines at
the end are all that is lost -/
structure Tidies (t u : Text) : Prop extends IsTidy u where
  inked : Text.inked u = Text.inked t
  kept : ∀ i l, t.lines[i]? = some l → (∃ m ∈ t.lines.drop i, m.allBlank = false) →
    ∃ l' e, u.lines[i]? = some l' ∧ l = l' ++ e ∧ e.allBlank = true
  /-- a blank line before one that is not blank stays as an empty line -/
  inner : ∀ i l, t.lines[i]? = some l → l.allBlank = true → (∃ m ∈ t.lines.drop i, m.allBlank = false) →
    u.lines[i]? = some []

/-- **The built-in style is a normal form.** Every text has a text in the built-in style with the same lines up to white
space at their ends and to blank lines at the end, and a text in the built-in style stays as it is. -/
theorem tidies_tidied (t : Text) : Tidies t (tidied t) ∧ tidied (tidied t) = tidied t := by
  refine ⟨⟨isTidy_tidied t, inked_tidied t, fun i l hl hink => ?_, fun i l hl hblank hink => ?_⟩,
    tidied_eq_iff.mpr (isTidy_tidied t)⟩
  · obtain ⟨e, hl', he⟩ := Text.exists_trimEnd l
    exact ⟨l.trimEnd, e, lines_tidied hl hink, hl', he⟩
  · rw [lines_tidied hl hink, (Text.trimEnd_eq_nil_iff l).mpr hblank]

example : tidied " a\u00a0\r\n\t\r\x0cb\u2028\n \x1c" = " a\n\n\nb\n" := by decide

end Style
end DatabaseTypes
