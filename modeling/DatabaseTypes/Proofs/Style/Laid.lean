import DatabaseTypes.Layout
import DatabaseTypes.Proofs.Style
import Mathlib.Data.List.Chain

/-!
# Laid out texts

Texts that are put together are in the built-in style if each of them is laid out: line feeds alone end its lines, none
of them follows white space, and it neither begins with a line end nor ends with white space.  Which characters stand
beside each other is all that has to be looked at.

* `Style.Adjacent`       may one character follow the other?
* `Style.IsLaid`         a text that is laid out
* `Style.IsSeparator`    a text that may stand between two of them
* `Style.isTidy_of_isChain`   from characters beside each other to the built-in style
* `Layout.IsLaid`        a piece of the output whose text is laid out
-/

namespace DatabaseTypes

namespace Style

open Text (IsLine IsTrimmed)

/-- may the second character follow the first? Lines end with line feeds, which follow no white space but each other. -/
def Adjacent (c d : Char) : Prop := Text.isLineBreak d = true → d = '\n' ∧ (c = '\n' ∨ Text.isBlank c = false)

instance (c d : Char) : Decidable (Adjacent c d) := inferInstanceAs (Decidable (_ → _ ∧ (_ ∨ _)))

/-- a text that is laid out: it neither begins with a line end nor ends with white space -/
structure IsLaid (t : Text) : Prop where
  chain : t.IsChain Adjacent
  head : ∀ c ∈ t.head?, Text.isLineBreak c = false
  last : ∃ c ∈ t.getLast?, Text.isBlank c = false

/-- may a text stand between two that are laid out? -/
structure IsSeparator (sep : Text) : Prop where
  chain : sep.IsChain Adjacent
  head : ∀ c ∈ sep.head?, Text.isLineBreak c = true → c = '\n'

instance (t : Text) : Decidable (IsLaid t) :=
  decidable_of_iff (t.IsChain Adjacent ∧ t.head?.all (!Text.isLineBreak ·) = true
      ∧ t.getLast?.any (!Text.isBlank ·) = true)
    ⟨fun ⟨h, hhead, hlast⟩ => ⟨h, by simpa [Option.all_eq_true] using hhead, by simpa [Option.any_eq_true] using hlast⟩,
      fun h => ⟨h.chain, by simpa [Option.all_eq_true] using h.head, by simpa [Option.any_eq_true] using h.last⟩⟩

instance (sep : Text) : Decidable (IsSeparator sep) :=
  decidable_of_iff (sep.IsChain Adjacent ∧ sep.head?.all (fun c => !Text.isLineBreak c || c == '\n') = true)
    ⟨fun ⟨h, hhead⟩ => ⟨h, by simpa [Option.all_eq_true, ← Bool.not_eq_true, imp_iff_not_or] using hhead⟩,
      fun h => ⟨h.chain, by simpa [Option.all_eq_true, ← Bool.not_eq_true, imp_iff_not_or] using h.head⟩⟩

theorem adjacent_of_not_isLineBreak (c : Char) {d : Char} (h : Text.isLineBreak d = false) : Adjacent c d := by
  intro hbreak
  rw [h] at hbreak
  cases hbreak

theorem IsLaid.ne_nil {t : Text} (h : IsLaid t) : t ≠ [] := by
  obtain ⟨c, hc, _⟩ := h.last
  rintro rfl
  cases hc

theorem IsLaid.isTrimmed {t : Text} (h : IsLaid t) : IsTrimmed t := by
  obtain ⟨c, hc, hblank⟩ := h.last
  intro d hd
  rwa [Option.mem_unique hd hc]

theorem IsLaid.cons {t : Text} (h : IsLaid t) (c : Char) : (c :: t).IsChain Adjacent :=
  h.chain.cons fun d hd => adjacent_of_not_isLineBreak c (h.head d hd)

theorem isChain_of_isLine {t : Text} (h : IsLine t) : t.IsChain Adjacent := by
  induction t with
  | nil => exact .nil
  | cons c t ih =>
    obtain ⟨_, ht⟩ := List.forall_mem_cons.mp h
    exact (ih ht).cons fun d hd => adjacent_of_not_isLineBreak c (ht d (List.mem_of_mem_head? hd))

/-! ## texts that are put together -/

theorem IsLaid.append {t u : Text} (ht : IsLaid t) (hu : IsLaid u) : IsLaid (t ++ u) where
  chain := ht.chain.append hu.chain fun c _ d hd => adjacent_of_not_isLineBreak c (hu.head d hd)
  head := by
    rw [List.head?_append_of_ne_nil _ ht.ne_nil]
    exact ht.head
  last := by
    rw [List.getLast?_append_of_ne_nil _ hu.ne_nil]
    exact hu.last

/-- a text in one line, and what goes on in the line -/
theorem IsLaid.inLine {l t : Text} (hl : IsLine l) (ht : IsLaid t) : IsLaid (l ++ t) where
  chain := (isChain_of_isLine hl).append ht.chain fun c _ d hd => adjacent_of_not_isLineBreak c (ht.head d hd)
  head := by
    cases l with
    | nil => exact ht.head
    | cons c l => exact fun d hd => hl d (List.mem_of_mem_head? hd)
  last := by
    rw [List.getLast?_append_of_ne_nil _ ht.ne_nil]
    exact ht.last

theorem IsLaid.between {t u sep : Text} (ht : IsLaid t) (hsep : IsSeparator sep) (hu : IsLaid u) :
    IsLaid (t ++ sep ++ u) where
  chain := by
    refine (ht.chain.append hsep.chain fun c hc d hd hbreak => ?_).append hu.chain fun c _ d hd => ?_
    · exact ⟨hsep.head d hd hbreak, .inr (ht.isTrimmed c hc)⟩
    · exact adjacent_of_not_isLineBreak c (hu.head d hd)
  head := by
    rw [List.append_assoc, List.head?_append_of_ne_nil _ ht.ne_nil]
    exact ht.head
  last := by
    rw [List.getLast?_append_of_ne_nil _ hu.ne_nil]
    exact hu.last

theorem isLaid_joined {sep : Text} (hsep : IsSeparator sep) {ts : List Text} (hne : ts ≠ [])
    (h : ∀ t ∈ ts, IsLaid t) : IsLaid (Text.joined sep ts) := by
  induction ts with
  | nil => exact absurd rfl hne
  | cons t ts ih =>
    obtain ⟨ht, hts⟩ := List.forall_mem_cons.mp h
    by_cases e : ts = []
    · rwa [e, Text.joined_single]
    · rw [Text.joined_cons _ _ _ e]
      exact ht.between hsep (ih e hts)

/-! ## the built-in style -/

/-- a character that follows another ends a line only if it is a line feed -/
theorem eq_of_isChain {c : Char} {t : Text} (h : (c :: t).IsChain Adjacent) {d : Char} (hd : d ∈ t)
    (hbreak : Text.isLineBreak d = true) : d = '\n' := by
  induction t generalizing c with
  | nil => cases hd
  | cons e t ih =>
    rw [List.isChain_cons_cons] at h
    rcases List.mem_cons.mp hd with rfl | hd
    · exact (h.1 hbreak).1
    · exact ih h.2 hd

theorem isTrimmed_of_isChain {ls : List Text} (hline : ∀ l ∈ ls, IsLine l)
    (h : (Text.joined ['\n'] ls ++ ['\n']).IsChain Adjacent) : ∀ l ∈ ls, IsTrimmed l := by
  -- a line feed follows the last character of a line, which is none itself
  have hlast : ∀ {l t : Text}, IsLine l → (l ++ '\n' :: t).IsChain Adjacent → IsTrimmed l := by
    intro l t hl hchain c hc
    obtain ⟨_, _, hadjacent⟩ := List.isChain_append.mp hchain
    refine (hadjacent c hc '\n' rfl (by decide)).2.resolve_left fun e => ?_
    have := hl c (List.mem_of_getLast? hc)
    rw [e] at this
    cases this
  induction ls with
  | nil => exact fun l hl => absurd hl List.not_mem_nil
  | cons l ls ih =>
    obtain ⟨hl, hls⟩ := List.forall_mem_cons.mp hline
    by_cases e : ls = []
    · rw [e] at h ⊢
      exact List.forall_mem_singleton.mpr (hlast hl h)
    · rw [Text.joined_cons _ _ _ e, List.append_assoc, List.append_assoc, List.singleton_append] at h
      exact List.forall_mem_cons.mpr ⟨hlast hl h, ih hls h.right_of_append.tail⟩

/-- a text without white space at its end is in the built-in style, once it ends with a line feed, if only characters
follow each other in it that may; `c` stands before the first -/
theorem isTidy_of_isChain {c : Char} {t : Text} (h : (c :: t).IsChain Adjacent) (ht : IsTrimmed t) :
    IsTidy (t ++ ['\n']) where
  ended := by
    refine ⟨t, rfl, fun hlast => ?_⟩
    have := ht '\n' hlast
    cases this
  breaks d hd hbreak := by
    rcases List.mem_append.mp hd with hd | hd
    · exact eq_of_isChain h hd hbreak
    · exact List.mem_singleton.mp hd
  trimmed := by
    obtain ⟨e, hlines⟩ := Text.lines_eq_split fun d hd => eq_of_isChain h hd
    rw [e]
    refine isTrimmed_of_isChain hlines ?_
    rw [Text.joined_split]
    refine h.tail.append (.singleton _) fun d hd e he _ => ?_
    cases he
    exact ⟨rfl, .inr (ht d hd)⟩

/-- a text that is laid out is in the built-in style after an empty line -/
theorem IsLaid.isTidy {t : Text} (h : IsLaid t) : IsTidy ('\n' :: t ++ ['\n']) := by
  refine isTidy_of_isChain (c := '\n') ((h.cons '\n').cons_cons fun _ => ⟨rfl, .inl rfl⟩) ?_
  intro c hc
  rw [List.getLast?_cons_of_ne_nil h.ne_nil] at hc
  exact h.isTrimmed c hc

end Style

/-! ## pieces -/

namespace Layout

open Style (IsSeparator)

/-- a piece whose text is laid out -/
def IsLaid (node : Layout) : Prop := Style.IsLaid node.text

theorem isLaid_lines {ls : List Text} {indent : Text} (hi : Text.IsLine indent) (hne : ls ≠ [])
    (h : ∀ l ∈ ls, Style.IsLaid l) : (lines ls indent).IsLaid := by
  refine Style.isLaid_joined (by decide) ((fun e => hne (List.map_eq_nil_iff.mp e))) fun t ht => ?_
  obtain ⟨l, hl, rfl⟩ := List.mem_map.mp ht
  exact .inLine hi (h l hl)

theorem isLaid_joined {nodes : List Layout} {sep : Text} (hsep : IsSeparator sep) (hne : nodes ≠ [])
    (h : ∀ n ∈ nodes, n.IsLaid) : (joined nodes sep).IsLaid := by
  rw [Layout.IsLaid, text, texts_eq_map]
  refine Style.isLaid_joined hsep ((fun e => hne (List.map_eq_nil_iff.mp e))) fun t ht => ?_
  obtain ⟨n, hn, rfl⟩ := List.mem_map.mp ht
  exact h n hn

/-- pieces with a separator between them, if there are any, and nothing otherwise -/
theorem eq_nil_or_isLaid_joined {nodes : List Layout} {sep : Text} (hsep : IsSeparator sep)
    (h : ∀ n ∈ nodes, n.IsLaid) : (joined nodes sep).text = [] ∨ (joined nodes sep).IsLaid := by
  by_cases e : nodes = []
  · rw [e]
    exact .inl rfl
  · exact .inr (isLaid_joined hsep e h)

/-- a piece between two lines; an empty line is left where it has no text -/
theorem isLaid_block {opening closing : Text} {body : Layout} (ho : Style.IsLaid opening)
    (h : body.text = [] ∨ body.IsLaid) (hc : Style.IsLaid closing) : (block opening body closing).IsLaid := by
  rw [Layout.IsLaid, text]
  rcases h with e | h
  · rw [e, List.append_nil, List.append_assoc opening]
    exact ho.between (by decide) hc
  · exact (ho.between (by decide) h).between (by decide) hc

theorem isLaid_before {above : List Text} {node : Layout} {indent : Text} (hi : Text.IsLine indent)
    (ha : ∀ l ∈ above, Style.IsLaid l) (h : node.IsLaid) : (before above node indent).IsLaid := by
  unfold before
  split
  · exact h
  · rename_i hne
    have habove : (lines above indent).IsLaid :=
      isLaid_lines hi (List.isEmpty_eq_false_iff.mp (Bool.not_eq_true _ ▸ hne)) ha
    exact isLaid_joined (by decide) (List.cons_ne_nil _ _)
      (List.forall_mem_cons.mpr ⟨habove, List.forall_mem_singleton.mpr h⟩)

end Layout
end DatabaseTypes
