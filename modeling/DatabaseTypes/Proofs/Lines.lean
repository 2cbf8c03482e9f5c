import DatabaseTypes.Text.Lines
import Mathlib.Data.List.DropRight

/-!
# Lines, trimmed and put together

A text that is cut into lines has the characters of its lines and what ends them.  Whatever ends a line is white space,
so that cutting a text into lines and trimming them loses no other characters.

* `Text.mem_of_mem_linesFrom`             the lines of a text have its characters
* `Text.not_isLineBreak_of_mem_linesFrom`   but none that ends a line
* `Text.exists_of_mem_joined`             texts that are joined have their characters and those between them
* `Text.mem_of_mem_replacedFrom`          a text in which something is replaced has its characters and the new ones
* `Text.IsLine`          a text in which no line ends
* `Text.IsTrimmed`       a text without white space at its end
* `Text.inked`           the characters of a text that are no white space
* `Text.exists_trimEnd`  what is lost when a text is trimmed
* `Text.inked_lines`     nothing but white space is lost when a text is cut into lines
* `Text.lines_ended`, `Text.lines_joined`   lines that are put together are the lines of the text
* `Text.physicalLines_append`             a text that is cut after a line feed has the lines of both parts
* `Text.physicalLines_flatten`            lines that are put together are the lines of the text
-/

namespace DatabaseTypes.Text

/-! ## characters -/

theorem mem_of_mem_linesFrom {line t : Text} {c : Char} :
    ∀ l ∈ linesFrom line t, c ∈ l → c ∈ line ∨ c ∈ t := by
  fun_induction linesFrom line t with
  | case1 line => exact fun l hl => absurd hl List.not_mem_nil
  | case2 line =>
    intro l hl hc
    rw [List.mem_singleton.mp hl, List.mem_reverse] at hc
    exact .inl hc
  | case3 line t ih =>
    intro l hl hc
    rcases List.mem_cons.mp hl with rfl | hl
    · exact .inl (List.mem_reverse.mp hc)
    · rcases ih l hl hc with h | h
      · cases h
      · exact .inr (List.mem_cons_of_mem _ (List.mem_cons_of_mem _ h))
  | case4 line d t _ _ ih =>
    intro l hl hc
    rcases List.mem_cons.mp hl with rfl | hl
    · exact .inl (List.mem_reverse.mp hc)
    · rcases ih l hl hc with h | h
      · cases h
      · exact .inr (List.mem_cons_of_mem _ h)
  | case5 line d t _ _ ih =>
    intro l hl hc
    rcases ih l hl hc with h | h
    · rcases List.mem_cons.mp h with rfl | h
      · exact .inr List.mem_cons_self
      · exact .inl h
    · exact .inr (List.mem_cons_of_mem _ h)

theorem not_isLineBreak_of_mem_linesFrom (line t : Text)
    (h : ∀ c ∈ line, isLineBreak c = false) :
    ∀ l ∈ linesFrom line t, ∀ c ∈ l, isLineBreak c = false := by
  have hline : ∀ c ∈ line.reverse, isLineBreak c = false := fun c hc => h c (List.mem_reverse.mp hc)
  fun_induction linesFrom line t with
  | case1 line => exact fun l hl => absurd hl List.not_mem_nil
  | case2 line =>
    intro l hl
    rw [List.mem_singleton.mp hl]
    exact hline
  | case3 line t ih =>
    intro l hl
    rcases List.mem_cons.mp hl with rfl | hl
    · exact hline
    · exact ih (by simp) (by simp) l hl
  | case4 line c t _ _ ih =>
    intro l hl
    rcases List.mem_cons.mp hl with rfl | hl
    · exact hline
    · exact ih (by simp) (by simp) l hl
  | case5 line c t _ hc ih =>
    have hcons : ∀ d ∈ c :: line, isLineBreak d = false := by
      intro d hd
      rcases List.mem_cons.mp hd with rfl | hd
      · exact Bool.not_eq_true _ ▸ hc
      · exact h d hd
    exact ih hcons fun d hd => hcons d (List.mem_reverse.mp hd)

theorem exists_of_mem_joined {sep : Text} {ts : List Text} {c : Char} (h : c ∈ joined sep ts) :
    c ∈ sep ∨ ∃ t ∈ ts, c ∈ t := by
  cases ts with
  | nil => cases h
  | cons t ts =>
    rw [joined_cons_eq_flatMap, List.mem_append, List.mem_flatMap] at h
    rcases h with h | ⟨u, hu, h⟩
    · exact .inr ⟨t, List.mem_cons_self, h⟩
    · rcases List.mem_append.mp h with h | h
      · exact .inl h
      · exact .inr ⟨u, List.mem_cons_of_mem _ hu, h⟩

/-- a text in which something is replaced has its characters and those that replace it -/
theorem mem_of_mem_replacedFrom {pattern replacement t : Text} {skip : Nat} {c : Char}
    (h : c ∈ replacedFrom pattern replacement skip t) : c ∈ replacement ∨ c ∈ t := by
  fun_induction replacedFrom pattern replacement skip t with
  | case1 => cases h
  | case2 skip d t ih => exact (ih h).imp_right (List.mem_cons_of_mem d)
  | case3 d t _ ih =>
    rcases List.mem_append.mp h with h | h
    · exact .inl h
    · exact (ih h).imp_right (List.mem_cons_of_mem d)
  | case4 d t _ ih =>
    rcases List.mem_cons.mp h with rfl | h
    · exact .inr List.mem_cons_self
    · exact (ih h).imp_right (List.mem_cons_of_mem d)

theorem isInfix_joined {sep t : Text} {ts : List Text} (h : t ∈ ts) : t <:+: joined sep ts := by
  induction ts with
  | nil => cases h
  | cons u ts ih =>
    cases ts with
    | nil =>
      rw [List.mem_singleton.mp h]
      exact List.infix_refl u
    | cons v ts =>
      rw [joined_cons_cons]
      rcases List.mem_cons.mp h with rfl | h
      · rw [List.append_assoc]
        exact (List.prefix_append _ _).isInfix
      · exact (ih h).trans (List.suffix_append _ _).isInfix

/-! ## one line -/

/-- a text in which no line ends -/
def IsLine (t : Text) : Prop := ∀ c ∈ t, isLineBreak c = false

/-- a text without white space at its end -/
def IsTrimmed (t : Text) : Prop := ∀ c ∈ t.getLast?, isBlank c = false

instance (t : Text) : Decidable (IsLine t) :=
  decidable_of_iff (t.all (!isLineBreak ·) = true) (by simp [IsLine])

/-- the characters that are no white space -/
def inked (t : Text) : Text := t.filter fun c => !isBlank c

/-- whatever ends a line is white space -/
theorem isBlank_of_isLineBreak {c : Char} (h : isLineBreak c = true) : isBlank c = true := by
  simp only [isLineBreak, Bool.or_eq_true, Bool.and_eq_true, decide_eq_true_eq, beq_iff_eq] at h
  simp only [isBlank]
  split
  · simp only [Bool.or_eq_true, Bool.and_eq_true, decide_eq_true_eq]
    omega
  · simp only [Bool.or_eq_true, Bool.and_eq_true, decide_eq_true_eq, beq_iff_eq]
    omega

/-! ## trimming -/

theorem trimEnd_concat (t : Text) (c : Char) :
    trimEnd (t ++ [c]) = if isBlank c then trimEnd t else t ++ [c] := by
  induction t with
  | nil => rfl
  | cons d t ih =>
    rw [List.cons_append, trimEnd, ih, trimEnd]
    by_cases hc : isBlank c = true
    · rw [if_pos hc, if_pos hc]
    · rw [if_neg hc, if_neg hc]
      cases t <;> rfl

theorem trimEnd_eq_rdropWhile (t : Text) : trimEnd t = t.rdropWhile isBlank := by
  induction t using List.reverseRecOn with
  | nil => rfl
  | append_singleton t c ih => rw [trimEnd_concat, List.rdropWhile_concat, ih]

/-- a text is what is left of it when it is trimmed, and white space -/
theorem exists_trimEnd (t : Text) : ∃ u, t = trimEnd t ++ u ∧ allBlank u = true := by
  refine ⟨t.rtakeWhile isBlank, ?_, List.all_eq_true.mpr fun c => List.mem_rtakeWhile_imp⟩
  rw [trimEnd_eq_rdropWhile, List.rdropWhile_append_rtakeWhile]

theorem prefix_trimEnd (t : Text) : trimEnd t <+: t := by
  obtain ⟨u, e, _⟩ := exists_trimEnd t
  exact ⟨u, e.symm⟩

theorem IsLine.trimEnd {t : Text} (h : IsLine t) : IsLine (trimEnd t) :=
  fun c hc => h c ((prefix_trimEnd t).subset hc)

theorem isTrimmed_trimEnd (t : Text) : IsTrimmed (trimEnd t) := by
  intro c hc
  rw [trimEnd_eq_rdropWhile] at hc
  obtain ⟨hne, rfl⟩ := List.mem_getLast?_eq_getLast hc
  exact Bool.not_eq_true _ ▸ List.rdropWhile_last_not isBlank t hne

theorem IsTrimmed.trimEnd_eq {t : Text} (h : IsTrimmed t) : trimEnd t = t := by
  rw [trimEnd_eq_rdropWhile, List.rdropWhile_eq_self_iff]
  intro hne hblank
  rw [h _ (List.getLast_mem_getLast? hne)] at hblank
  cases hblank

theorem map_trimEnd_eq {ls : List Text} (h : ∀ l ∈ ls, IsTrimmed l) : ls.map trimEnd = ls := by
  conv_rhs => rw [← List.map_id ls]
  exact List.map_congr_left fun l hl => (h l hl).trimEnd_eq

/-! ## what is lost -/

theorem inked_append (s t : Text) : inked (s ++ t) = inked s ++ inked t := List.filter_append _ _

theorem inked_of_allBlank {t : Text} (h : allBlank t = true) : inked t = [] := by
  refine List.filter_eq_nil_iff.mpr fun c hc => ?_
  rw [List.all_eq_true.mp h c hc]
  decide

theorem inked_trimEnd (t : Text) : inked (trimEnd t) = inked t := by
  obtain ⟨u, e, hu⟩ := exists_trimEnd t
  conv_rhs => rw [e, inked_append, inked_of_allBlank hu, List.append_nil]

theorem inked_cons_of_isLineBreak {c : Char} (h : isLineBreak c = true) (t : Text) : inked (c :: t) = inked t := by
  rw [← List.singleton_append, inked_append, inked_of_allBlank (t := [c]), List.nil_append]
  rw [allBlank, List.all_cons, isBlank_of_isLineBreak h]
  rfl

theorem inked_flatten_trimEnd (ls : List Text) : inked (ls.map trimEnd).flatten = inked ls.flatten := by
  induction ls with
  | nil => rfl
  | cons l ls ih => rw [List.map_cons, List.flatten_cons, List.flatten_cons, inked_append, inked_append, inked_trimEnd, ih]

theorem inked_linesFrom (line t : Text) : inked (linesFrom line t).flatten = inked (line.reverse ++ t) := by
  fun_induction linesFrom line t with
  | case1 line hl =>
    rw [List.isEmpty_iff.mp hl]
    rfl
  | case2 line => rw [List.flatten_singleton, List.append_nil]
  | case3 line t ih =>
    rw [List.flatten_cons, inked_append, inked_append, inked_cons_of_isLineBreak (by decide),
      inked_cons_of_isLineBreak (by decide)]
    exact congrArg (inked line.reverse ++ ·) ih
  | case4 line c t _ hc ih =>
    rw [List.flatten_cons, inked_append, inked_append, inked_cons_of_isLineBreak hc]
    exact congrArg (inked line.reverse ++ ·) ih
  | case5 line c t _ _ ih => rw [ih, List.reverse_cons, List.append_assoc, List.singleton_append]

/-- nothing but white space is lost when a text is cut into lines -/
theorem inked_lines (t : Text) : inked t.lines.flatten = inked t := inked_linesFrom [] t

theorem inked_joined {sep : Text} (hsep : allBlank sep = true) (ts : List Text) :
    inked (joined sep ts) = inked ts.flatten := by
  induction ts with
  | nil => rfl
  | cons t ts ih =>
    by_cases e : ts = []
    · rw [e, joined_single, List.flatten_singleton]
    · rw [joined_cons sep t ts e, inked_append, inked_append, inked_of_allBlank hsep, List.append_nil, ih,
        List.flatten_cons, inked_append]

/-! ## lines -/

theorem isLine_nil : IsLine [] := fun _ hc => absurd hc List.not_mem_nil

theorem IsLine.append {s t : Text} (hs : IsLine s) (ht : IsLine t) : IsLine (s ++ t) :=
  List.forall_mem_append.mpr ⟨hs, ht⟩

theorem isLine_of_mem_lines {t l : Text} (h : l ∈ t.lines) : IsLine l :=
  not_isLineBreak_of_mem_linesFrom [] t isLine_nil l h

/-- a character that does not end a line stands in it -/
theorem linesFrom_cons (line : Text) {c : Char} (h : isLineBreak c = false) (t : Text) :
    linesFrom line (c :: t) = linesFrom (c :: line) t := by
  rw [linesFrom, h, if_neg Bool.false_ne_true]
  rintro u rfl -
  cases h

theorem linesFrom_append (line : Text) {l : Text} (h : IsLine l) (t : Text) :
    linesFrom line (l ++ t) = linesFrom (l.reverse ++ line) t := by
  induction l generalizing line with
  | nil => rfl
  | cons c l ih =>
    obtain ⟨hc, hl⟩ := List.forall_mem_cons.mp h
    rw [List.cons_append, linesFrom_cons line hc, ih _ hl, List.reverse_cons, List.append_assoc, List.singleton_append]

/-- the first line of a text ends where a line feed stands -/
theorem lines_append {l : Text} (h : IsLine l) (t : Text) : lines (l ++ '\n' :: t) = l :: lines t := by
  rw [lines, linesFrom_append [] h, List.append_nil]
  show (if isLineBreak '\n' then _ else _) = _
  rw [if_pos (by decide), List.reverse_reverse]
  rfl

theorem lines_of_isLine {l : Text} (h : IsLine l) (hne : l ≠ []) : lines l = [l] := by
  have e := linesFrom_append [] h []
  rw [List.append_nil, List.append_nil, linesFrom, List.isEmpty_reverse, List.isEmpty_eq_false_iff.mpr hne,
    if_neg Bool.false_ne_true, List.reverse_reverse] at e
  exact e

/-- lines with a line feed after each of them -/
theorem lines_ended {ls : List Text} (h : ∀ l ∈ ls, IsLine l) (hne : ls ≠ []) :
    lines (joined ['\n'] ls ++ ['\n']) = ls := by
  induction ls with
  | nil => exact absurd rfl hne
  | cons l ls ih =>
    obtain ⟨hl, hls⟩ := List.forall_mem_cons.mp h
    by_cases e : ls = []
    · rw [e, joined_single, lines_append hl, lines_nil]
    · rw [joined_cons _ _ _ e, List.append_assoc, List.append_assoc, List.singleton_append, lines_append hl, ih hls e]

/-- lines with a line feed between two of them; a last line without characters would not count -/
theorem lines_joined {ls : List Text} (h : ∀ l ∈ ls, IsLine l) (hlast : ls.getLast? ≠ some []) :
    lines (joined ['\n'] ls) = ls := by
  induction ls with
  | nil => rfl
  | cons l ls ih =>
    obtain ⟨hl, hls⟩ := List.forall_mem_cons.mp h
    cases ls with
    | nil => exact lines_of_isLine hl fun e => hlast (congrArg some e)
    | cons m ms =>
      rw [List.getLast?_cons_cons] at hlast
      rw [joined_cons_cons, List.append_assoc, List.singleton_append, lines_append hl, ih hls hlast]

/-! ## empty lines at the end -/

/-- lines are what is left of them without the empty ones at the end, and empty lines -/
theorem exists_rdropWhile (ls : List Text) : ∃ n, ls = ls.rdropWhile List.isEmpty ++ List.replicate n [] := by
  have hempty : ls.rtakeWhile List.isEmpty = List.replicate (ls.rtakeWhile List.isEmpty).length [] :=
    List.eq_replicate_length.mpr fun l hl => List.isEmpty_iff.mp (List.mem_rtakeWhile_imp hl)
  exact ⟨_, by rw [← hempty, List.rdropWhile_append_rtakeWhile]⟩

theorem getLast?_rdropWhile (ls : List Text) : (ls.rdropWhile List.isEmpty).getLast? ≠ some [] := by
  intro h
  obtain ⟨hne, e⟩ := List.mem_getLast?_eq_getLast h
  refine List.rdropWhile_last_not List.isEmpty ls hne ?_
  rw [← e]
  rfl

theorem rdropWhile_eq {ls : List Text} (h : ls.getLast? ≠ some []) : ls.rdropWhile List.isEmpty = ls := by
  refine List.rdropWhile_eq_self_iff.mpr fun hne hempty => h ?_
  rw [List.getLast?_eq_some_getLast hne, List.isEmpty_iff.mp hempty]

/-- an empty line that is dropped has no characters -/
theorem flatten_rdropWhile (ls : List Text) : (ls.rdropWhile List.isEmpty).flatten = ls.flatten := by
  obtain ⟨n, e⟩ := exists_rdropWhile ls
  conv_rhs => rw [e, List.flatten_append, List.flatten_replicate_nil, List.append_nil]

/-! ## lines with their line feeds -/

theorem physicalLinesFrom_append (line t u : Text) :
    physicalLinesFrom line (t ++ '\n' :: u) = physicalLinesFrom line (t ++ ['\n']) ++ physicalLines u := by
  induction t generalizing line with
  | nil => rfl
  | cons c t ih =>
    rw [List.cons_append, List.cons_append, physicalLinesFrom, physicalLinesFrom, ih, ih]
    split <;> rfl

/-- a text that is cut after a line feed has the lines of both parts -/
theorem physicalLines_append {t : Text} (h : t = [] ∨ t.getLast? = some '\n') (u : Text) :
    physicalLines (t ++ u) = physicalLines t ++ physicalLines u := by
  rcases h with rfl | h
  · rfl
  · obtain ⟨s, rfl⟩ := List.getLast?_eq_some_iff.mp h
    rw [List.append_assoc]
    exact physicalLinesFrom_append [] s u

/-- the lines of a text: a line feed ends each that another one follows, and stands nowhere else -/
structure AreLines (ls : List Text) : Prop where
  inner : ∀ l ∈ ls, l ≠ [] ∧ '\n' ∉ l.dropLast
  ended : ls.Pairwise fun l _ => l.getLast? = some '\n'

theorem areLines_physicalLinesFrom {line : Text} (t : Text) (h : '\n' ∉ line) : AreLines (physicalLinesFrom line t) := by
  induction t generalizing line with
  | nil =>
    rw [physicalLinesFrom]
    split
    · exact ⟨nofun, .nil⟩
    · rename_i hline
      refine ⟨List.forall_mem_singleton.mpr ⟨by simpa using hline, fun hmem => h ?_⟩, List.pairwise_singleton _ _⟩
      exact List.mem_reverse.mp (List.dropLast_subset _ hmem)
  | cons c t ih =>
    rw [physicalLinesFrom]
    split
    · rename_i hc
      have hrest : AreLines (physicalLinesFrom [] t) := ih List.not_mem_nil
      have hlast : (c :: line).reverse.getLast? = some '\n' := by
        rw [List.getLast?_reverse, List.head?_cons, hc]
      refine ⟨List.forall_mem_cons.mpr ⟨⟨by simp, fun hmem => h ?_⟩, hrest.inner⟩,
        List.pairwise_cons.mpr ⟨fun _ _ => hlast, hrest.ended⟩⟩
      rw [List.reverse_cons, List.dropLast_concat] at hmem
      exact List.mem_reverse.mp hmem
    · rename_i hc
      refine ih fun hmem => ?_
      rcases List.mem_cons.mp hmem with e | hmem
      · exact hc e.symm
      · exact h hmem

theorem areLines_physicalLines (t : Text) : AreLines (physicalLines t) := areLines_physicalLinesFrom t List.not_mem_nil

theorem AreLines.filter {ls : List Text} (h : AreLines ls) (p : Text → Bool) : AreLines (ls.filter p) :=
  ⟨fun l hl => h.inner l (List.mem_filter.mp hl).1, h.ended.filter p⟩

theorem physicalLinesFrom_unbroken (line u : Text) {t : Text} (h : '\n' ∉ t) :
    physicalLinesFrom line (t ++ u) = physicalLinesFrom (t.reverse ++ line) u := by
  induction t generalizing line with
  | nil => rfl
  | cons c t ih =>
    have hc : c ≠ '\n' := fun e => h (e ▸ List.mem_cons_self)
    rw [List.cons_append, physicalLinesFrom, if_neg hc, ih _ fun hmem => h (List.mem_cons_of_mem _ hmem),
      List.reverse_cons, List.append_assoc]
    rfl

theorem physicalLines_line {l : Text} (hne : l ≠ []) (h : '\n' ∉ l.dropLast) : physicalLines l = [l] := by
  obtain ⟨t, c, rfl⟩ : ∃ t c, l = t ++ [c] := ⟨_, _, (List.dropLast_concat_getLast hne).symm⟩
  rw [List.dropLast_concat] at h
  rw [physicalLines, physicalLinesFrom_unbroken [] [c] h, List.append_nil]
  have hline : (c :: t.reverse).reverse = t ++ [c] := by rw [List.reverse_cons, List.reverse_reverse]
  by_cases hc : c = '\n'
  · rw [physicalLinesFrom, if_pos hc, hline]
    rfl
  · rw [physicalLinesFrom, if_neg hc, physicalLinesFrom, hline]
    rfl

/-- lines that are put together are the lines of the text -/
theorem physicalLines_flatten {ls : List Text} (h : AreLines ls) : physicalLines ls.flatten = ls := by
  induction ls with
  | nil => rfl
  | cons l ls ih =>
    obtain ⟨hl, hinner⟩ := List.forall_mem_cons.mp h.inner
    obtain ⟨hended, hpairs⟩ := List.pairwise_cons.mp h.ended
    rw [List.flatten_cons]
    cases ls with
    | nil => rw [List.flatten_nil, List.append_nil, physicalLines_line hl.1 hl.2]
    | cons m ms =>
      rw [physicalLines_append (.inr (hended m List.mem_cons_self)), physicalLines_line hl.1 hl.2, ih ⟨hinner, hpairs⟩]
      rfl

end DatabaseTypes.Text
