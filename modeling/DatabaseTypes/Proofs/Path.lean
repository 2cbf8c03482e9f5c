import DatabaseTypes.Path

/-!
# Paths and their texts

A path is normal if it can be read from a text.  Then it is read from its own text again, so that a text and
the text of its path mean the same.

* `Path.IsPart`, `Path.Normal`   the parts and the paths that texts are read as
* `Path.normal_ofText`           what is read is normal
* `Path.ofText_text`             a normal path is read from its text
-/

namespace DatabaseTypes

/-! ## pieces of a text -/

namespace Text

variable {c : Char}

theorem split_of_notMem {t : Text} (h : c ∉ t) : split c t = [t] := by
  induction t with
  | nil => rfl
  | cons d t ih =>
    have hd : d ≠ c := fun e => h (e ▸ List.mem_cons_self)
    rw [split, if_neg hd, ih fun hc => h (List.mem_cons_of_mem _ hc)]

theorem split_append_cons {t : Text} (h : c ∉ t) (u : Text) :
    split c (t ++ c :: u) = t :: split c u := by
  induction t with
  | nil => rw [List.nil_append, split, if_pos rfl]
  | cons d t ih =>
    have hd : d ≠ c := fun e => h (e ▸ List.mem_cons_self)
    rw [List.cons_append, split, if_neg hd, ih fun hc => h (List.mem_cons_of_mem _ hc)]

theorem notMem_of_mem_split {t u : Text} (h : u ∈ split c t) : c ∉ u := by
  induction t generalizing u with
  | nil =>
    rw [split, List.mem_singleton] at h
    rw [h]
    exact List.not_mem_nil
  | cons d t ih =>
    rw [split] at h
    by_cases hd : d = c
    · rw [if_pos hd] at h
      rcases List.mem_cons.mp h with rfl | h
      · exact List.not_mem_nil
      · exact ih h
    · rw [if_neg hd] at h
      cases hs : split c t with
      | nil =>
        rw [hs, List.mem_singleton] at h
        rw [h, List.mem_singleton]
        exact Ne.symm hd
      | cons v vs =>
        rw [hs] at h ih
        rcases List.mem_cons.mp h with rfl | h
        · intro hc
          rcases List.mem_cons.mp hc with e | hc
          · exact hd e.symm
          · exact ih List.mem_cons_self hc
        · exact ih (List.mem_cons_of_mem _ h)

theorem split_ne_nil (c : Char) (t : Text) : split c t ≠ [] := by
  cases t with
  | nil => exact List.cons_ne_nil _ _
  | cons d t =>
    rw [split]
    split
    · exact List.cons_ne_nil _ _
    · split <;> exact List.cons_ne_nil _ _

theorem joined_split (c : Char) (t : Text) : joined [c] (split c t) = t := by
  induction t with
  | nil => rfl
  | cons d t ih =>
    rw [split]
    split
    · rename_i hd
      rw [joined_cons _ _ _ (split_ne_nil c t), ih, hd]
      rfl
    · obtain ⟨u, us, e⟩ := List.exists_cons_of_ne_nil (split_ne_nil c t)
      rw [e] at ih ⊢
      show joined [c] ((d :: u) :: us) = d :: t
      rw [← ih, joined_cons_eq_flatMap, joined_cons_eq_flatMap]
      rfl

/-- the pieces of pieces that are joined -/
theorem split_joined {ts : List Text} (hne : ts ≠ []) (h : ∀ t ∈ ts, c ∉ t) :
    split c (joined [c] ts) = ts := by
  induction ts with
  | nil => exact absurd rfl hne
  | cons t ts ih =>
    have ht : c ∉ t := h t List.mem_cons_self
    by_cases hts : ts = []
    · rw [hts, joined_single, split_of_notMem ht]
    · rw [joined_cons [c] t ts hts, List.append_assoc, List.singleton_append, split_append_cons ht,
        ih hts fun u hu => h u (List.mem_cons_of_mem _ hu)]

end Text

namespace Path

/-! ## normal paths -/

/-- a name, or two dots -/
structure IsPart (t : Text) : Prop where
  ne_nil : t ≠ []
  ne_dot : t ≠ ['.']
  slash : '/' ∉ t

/-- can a path be read from a text? -/
structure Normal (p : Path) : Prop where
  slashes : p.slashes ≤ 2
  parts : ∀ t ∈ p.parts, IsPart t

theorem isPart_of_mem_partsOf {t u : Text} (h : u ∈ partsOf t) : IsPart u := by
  obtain ⟨hs, hu⟩ := List.mem_filter.mp h
  rw [Bool.and_eq_true] at hu
  refine ⟨?_, ?_, Text.notMem_of_mem_split hs⟩
  · rintro rfl
    exact absurd hu.1 (by decide)
  · rintro rfl
    exact absurd hu.2 (by decide)

theorem normal_ofText (t : Text) : Normal (ofText t) where
  slashes := by
    show slashesOf t ≤ 2
    unfold slashesOf
    split <;> decide
  parts _ h := isPart_of_mem_partsOf h

/-! ## reading the text of a path -/

theorem partsOf_slash (t : Text) : partsOf ('/' :: t) = partsOf t := by
  rw [partsOf, Text.split, if_pos rfl]
  rfl

theorem partsOf_slashes (n : Nat) (t : Text) : partsOf (List.replicate n '/' ++ t) = partsOf t := by
  induction n with
  | zero => rfl
  | succ n ih => rw [List.replicate_succ, List.cons_append, partsOf_slash, ih]

theorem partsOf_joined {ts : List Text} (h : ∀ t ∈ ts, IsPart t) :
    partsOf (Text.joined ['/'] ts) = ts := by
  by_cases hts : ts = []
  · rw [hts]
    rfl
  · rw [partsOf, Text.split_joined hts fun t ht => (h t ht).slash, List.filter_eq_self]
    intro t ht
    rw [Bool.and_eq_true]
    refine ⟨?_, bne_iff_ne.mpr (h t ht).ne_dot⟩
    rw [Bool.not_eq_true', List.isEmpty_eq_false_iff]
    exact (h t ht).ne_nil

theorem head?_joined_ne_slash {ts : List Text} (h : ∀ t ∈ ts, IsPart t) :
    (Text.joined ['/'] ts).head? ≠ some '/' := by
  cases ts with
  | nil => nofun
  | cons t ts =>
    have ht := h t List.mem_cons_self
    rw [Text.joined_cons_eq_flatMap, List.head?_append]
    obtain ⟨c, u, rfl⟩ := List.exists_cons_of_ne_nil ht.ne_nil
    intro e
    cases e
    exact ht.slash List.mem_cons_self

theorem slashesOf_slashes {n : Nat} (hn : n ≤ 2) {t : Text} (h : t.head? ≠ some '/') :
    slashesOf (List.replicate n '/' ++ t) = n := by
  have htake : (List.replicate n '/' ++ t).takeWhile (· == '/') = List.replicate n '/' := by
    rw [List.takeWhile_append_of_pos]
    · have ht : t.takeWhile (· == '/') = [] := by
        cases t with
        | nil => rfl
        | cons c t =>
          refine List.takeWhile_cons_of_neg ?_
          intro e
          exact h (congrArg some (beq_iff_eq.mp e))
      rw [ht, List.append_nil]
    · intro c hc
      rw [List.eq_of_mem_replicate hc]
      rfl
  rw [slashesOf, htake, List.length_replicate]
  match n, hn with
  | 0, _ => rfl
  | 1, _ => rfl
  | 2, _ => rfl

/-- a normal path is read from its text -/
theorem ofText_text {p : Path} (h : p.Normal) : ofText p.text = p := by
  obtain ⟨slashes, parts⟩ := p
  by_cases hempty : slashes = 0 ∧ parts = []
  · obtain ⟨rfl, rfl⟩ := hempty
    rfl
  · rw [text, if_neg hempty]
    have hs := slashesOf_slashes h.slashes (head?_joined_ne_slash h.parts)
    have hp := (partsOf_slashes slashes _).trans (partsOf_joined h.parts)
    rw [ofText, hs, hp]

theorem text_ne_nil {p : Path} (h : p.Normal) : p.text ≠ [] := by
  intro e
  have hp := ofText_text h
  rw [e] at hp
  rw [← hp] at e
  cases e

/-! ## homes -/

/-- a path whose home directory is known is normal if the path was -/
theorem Normal.expanded {homes : Homes} {p q : Path} (h : p.Normal) (hq : p.expanded homes = .ok q) :
    q.Normal := by
  unfold Path.expanded at hq
  split at hq
  · rename_i first rest _ hparts
    have hrest : ∀ t ∈ rest, IsPart t := by
      intro t ht
      exact h.parts t (hparts ▸ List.mem_cons_of_mem _ ht)
    split at hq
    · split at hq
      · cases hq
      · split at hq
        · cases hq
        · cases hq
          rename_i home _ _
          refine ⟨(normal_ofText home).slashes, fun t ht => ?_⟩
          rcases List.mem_append.mp ht with ht | ht
          · exact (normal_ofText home).parts t ht
          · exact hrest t ht
    · cases hq
      exact h
  · cases hq
    exact h

/-- a path is not expanded only if it is in a home directory that is not known -/
theorem homeless_of_expanded {homes : Homes} {p : Path} {f : Fault} (h : p.expanded homes = .error f) :
    f = .homeless := by
  unfold Path.expanded at h
  split at h
  · split at h
    · split at h
      · cases h
        rfl
      · split at h
        · cases h
          rfl
        · cases h
    · cases h
  · cases h

/-- an absolute path has no home directory to be replaced -/
theorem expanded_of_isAbsolute {p : Path} (h : p.isAbsolute = true) (homes : Homes) :
    p.expanded homes = .ok p := by
  unfold Path.expanded
  split
  · rename_i hs _
    rw [isAbsolute, hs] at h
    cases h
  · rfl

end Path
end DatabaseTypes
