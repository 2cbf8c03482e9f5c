import DatabaseTypes.Proofs.Outcome
import DatabaseTypes.Status

/-!
# Texts without tags

A status line can be shown unless its message has a tag that cannot be read, opened or closed.  A message in which
no bracket begins a tag can always be shown.

* `Markup.tagless`        no bracket of a text begins a tag
* `Markup.exists_shown`   a status line with such a message can be shown
-/

namespace DatabaseTypes.Markup

/-! ## pieces -/

/-- does no bracket of a text begin a tag? -/
def tagless : Text → Bool
  | [] => true
  | c :: t => (c != '[' || !t.head?.any beginsTag) && tagless t

theorem tagless_cons {c : Char} {t : Text} :
    tagless (c :: t) = true ↔ (c = '[' → t.head?.any beginsTag = false) ∧ tagless t = true := by
  by_cases h : c = '[' <;> simp [tagless, h]

theorem tagless_drop {t : Text} (h : tagless t = true) (n : Nat) : tagless (t.drop n) = true := by
  induction t generalizing n with
  | nil => rwa [List.drop_nil]
  | cons c t ih =>
    cases n with
    | zero => exact h
    | succ n => exact ih (tagless_cons.mp h).2 n

theorem tagless_of_not_mem {t : Text} (h : '[' ∉ t) : tagless t = true := by
  induction t with
  | nil => rfl
  | cons c t ih =>
    exact tagless_cons.mpr ⟨fun e => absurd (e ▸ List.mem_cons_self) h, ih fun hm => h (List.mem_cons_of_mem _ hm)⟩

/-- texts that follow each other without a tag between them -/
theorem tagless_append {t u : Text} (ht : '[' ∉ t) (hu : tagless u = true) : tagless (t ++ u) = true := by
  induction t with
  | nil => exact hu
  | cons c t ih =>
    exact tagless_cons.mpr ⟨fun e => absurd (e ▸ List.mem_cons_self) ht, ih fun hm => ht (List.mem_cons_of_mem _ hm)⟩

theorem tagAfter?_eq_none {t : Text} (h : t.head?.any beginsTag = false) : tagAfter? t = none := by
  have hcontent : ((t.takeWhile fun c => c != '[' && c != ']').head?.any beginsTag) = false := by
    cases t with
    | nil => rfl
    | cons c t =>
      rw [List.takeWhile_cons]
      split
      · exact h
      · rfl
  unfold tagAfter?
  dsimp only
  rw [hcontent]
  split <;> rfl

/-- plain text, and no tag -/
def Piece.IsPlain (p : Piece) : Prop := ∃ t, p = .plain t

theorem isPlain_plainBetween (before : Text) : ∀ p ∈ plainBetween before, p.IsPlain := by
  intro p hp
  unfold plainBetween at hp
  split at hp
  · cases hp
  · exact ⟨_, List.mem_singleton.mp hp⟩

theorem isPlain_piecesFrom {t : Text} (h : tagless t = true) (fuel position : Nat) (before : Text) :
    ∀ p ∈ piecesFrom fuel position before t, p.IsPlain := by
  induction fuel generalizing position before t with
  | zero => exact isPlain_plainBetween before
  | succ fuel ih =>
    cases t with
    | nil => exact isPlain_plainBetween before
    | cons c t =>
      unfold piecesFrom
      dsimp only
      have hdrop := tagless_drop h (List.takeWhile (· == '\\') (c :: t)).length
      split
      · rename_i rest hrest
        rw [hrest] at hdrop
        have hrest := tagless_cons.mp hdrop
        rw [tagAfter?_eq_none (hrest.1 rfl)]
        exact ih hrest.2 _ _
      · split
        · exact ih (tagless_cons.mp h).2 _ _
        · exact ih hdrop _ _

theorem piecesFrom_char {c : Char} (h : c ≠ '[') (h' : c ≠ '\\') (fuel position : Nat) (before t : Text) :
    piecesFrom (fuel + 1) position before (c :: t) = piecesFrom fuel (position + 1) (c :: before) t := by
  have hslashes : List.takeWhile (· == '\\') (c :: t) = [] := by
    rw [List.takeWhile_cons, if_neg (by simpa using h')]
  rw [piecesFrom, hslashes]
  dsimp only [List.length_nil, List.drop_zero]
  split
  · rename_i e
    exact absurd (List.cons.inj e).1 h
  · rfl

/-- characters that begin no tag, one after the other -/
theorem piecesFrom_append {t : Text} (h : '[' ∉ t) (h' : '\\' ∉ t) (fuel position : Nat) (before u : Text) :
    piecesFrom (fuel + t.length) position before (t ++ u)
      = piecesFrom fuel (position + t.length) (t.reverse ++ before) u := by
  induction t generalizing position before with
  | nil => rfl
  | cons c t ih =>
    have hc : c ≠ '[' ∧ c ≠ '\\' :=
      ⟨fun e => h (e ▸ List.mem_cons_self), fun e => h' (e ▸ List.mem_cons_self)⟩
    rw [List.cons_append, List.length_cons, ← Nat.add_assoc, piecesFrom_char hc.1 hc.2,
      ih (fun hm => h (List.mem_cons_of_mem _ hm)) fun hm => h' (List.mem_cons_of_mem _ hm), List.reverse_cons,
      List.append_assoc, Nat.add_assoc position, Nat.add_comm 1]
    rfl

theorem piecesFrom_bracket (fuel position : Nat) (before rest : Text) :
    piecesFrom (fuel + 1) position before ('[' :: rest) = match tagAfter? rest with
      | none => piecesFrom fuel (position + 1) ('[' :: before) rest
      | some (content, after) => plainBetween before ++ .plain [] :: .tag content position
          :: piecesFrom fuel (position + content.length + 2) [] after := by
  have hslashes : List.takeWhile (· == '\\') ('[' :: rest) = [] := rfl
  rw [piecesFrom, hslashes]
  rfl

theorem piecesFrom_tag {rest content after : Text} (h : tagAfter? rest = some (content, after))
    (fuel position : Nat) (before : Text) : piecesFrom (fuel + 1) position before ('[' :: rest)
      = plainBetween before ++ .plain [] :: .tag content position
        :: piecesFrom fuel (position + content.length + 2) [] after := by
  rw [piecesFrom_bracket, h]

/-! ## what is shown -/

theorem plainText_append (tags : List Tag × List Tag) {ps : List Piece} (hps : ∀ p ∈ ps, p.IsPlain)
    (qs : List Piece) : ∃ t, plainText tags (ps ++ qs) = (plainText tags qs).map (t ++ ·) := by
  induction ps with
  | nil =>
    refine ⟨[], ?_⟩
    rw [List.nil_append]
    cases plainText tags qs <;> rfl
  | cons p ps ih =>
    obtain ⟨t, rfl⟩ := hps p List.mem_cons_self
    obtain ⟨u, hu⟩ := ih fun p hp => hps p (List.mem_cons_of_mem _ hp)
    refine ⟨Emoji.placed t ++ u, ?_⟩
    rw [List.cons_append, plainText, hu]
    cases plainText tags qs with
    | error f => rfl
    | ok v => exact congrArg Except.ok (List.append_assoc _ _ _).symm

theorem exists_plainText (tags : List Tag × List Tag) (h : (tags.1 ++ tags.2).forM Tag.finish = .ok ())
    {ps : List Piece} (hps : ∀ p ∈ ps, p.IsPlain) : ∃ t, plainText tags ps = .ok t := by
  obtain ⟨t, ht⟩ := plainText_append tags hps []
  rw [List.append_nil, plainText, h] at ht
  exact ⟨_, ht⟩

/-- a message after a sign in a colour -/
def signed (colour : Text) (sign : Char) (m : Text) : Text :=
  '[' :: (colour ++ ']' :: sign :: '[' :: '/' :: (colour ++ ']' :: ' ' :: m))

/-- the tags of a colour can be read, opened and closed -/
structure IsPaired (colour : Text) : Prop where
  opening : ∀ t, tagAfter? (colour ++ ']' :: t) = some (colour, t)
  closing : ∀ t, tagAfter? ('/' :: (colour ++ ']' :: t)) = some ('/' :: colour, t)
  tags : ∃ tags closed, afterTag colour 0 ([], []) = .ok tags
    ∧ afterTag ('/' :: colour) (colour.length + 3) tags = .ok ([], closed) ∧ closed.forM Tag.finish = .ok ()

section
variable {colour : Text} (h : IsPaired colour) {sign : Char} (hsign : sign ≠ '[') (hsign' : sign ≠ '\\')
include h hsign hsign'

/-- no tag is open after a sign in a colour -/
theorem IsPaired.exists_plainText (m : Text) : ∃ closed t, closed.forM Tag.finish = .ok ()
    ∧ plainText ([], []) (pieces (signed colour sign m)) = (plainText ([], closed)
      (piecesFrom (m.length + 5 + 2 * colour.length) (2 * colour.length + 6) [] (' ' :: m))).map (t ++ ·) := by
  obtain ⟨tags, closed, hopen, hclose, hfinish⟩ := h.tags
  have hfuel : (signed colour sign m).length = m.length + 5 + 2 * colour.length + 2 := by
    simp only [signed, List.length_cons, List.length_append]
    omega
  have hposition : colour.length + 3 + ('/' :: colour).length + 2 = 2 * colour.length + 6 := by
    rw [List.length_cons]
    omega
  have hpieces : pieces (signed colour sign m) = [.plain []] ++ .tag colour 0 :: ((plainBetween [sign] ++ [.plain []])
      ++ .tag ('/' :: colour) (colour.length + 3)
        :: piecesFrom (m.length + 5 + 2 * colour.length) (2 * colour.length + 6) [] (' ' :: m)) := by
    rw [pieces, hfuel, signed, piecesFrom_tag (h.opening _), piecesFrom_char hsign hsign',
      piecesFrom_tag (h.closing _), ← hposition, Nat.zero_add, List.append_assoc]
    rfl
  have hnothing : ∀ p ∈ [Piece.plain []], p.IsPlain := List.forall_mem_singleton.mpr ⟨[], rfl⟩
  obtain ⟨t, ht⟩ := plainText_append ([], []) hnothing (.tag colour 0 :: ((plainBetween [sign] ++ [.plain []])
    ++ .tag ('/' :: colour) (colour.length + 3)
      :: piecesFrom (m.length + 5 + 2 * colour.length) (2 * colour.length + 6) [] (' ' :: m)))
  obtain ⟨u, hu⟩ := plainText_append tags
    (List.forall_mem_append.mpr ⟨isPlain_plainBetween [sign], hnothing⟩)
    (.tag ('/' :: colour) (colour.length + 3)
      :: piecesFrom (m.length + 5 + 2 * colour.length) (2 * colour.length + 6) [] (' ' :: m))
  refine ⟨closed, t ++ u, hfinish, ?_⟩
  rw [hpieces, ht, plainText, hopen]
  dsimp only [bind, Except.bind]
  rw [hu, plainText, hclose]
  dsimp only [bind, Except.bind]
  generalize plainText ([], closed)
    (piecesFrom (m.length + 5 + 2 * colour.length) (2 * colour.length + 6) [] (' ' :: m)) = rest
  cases rest with
  | error f => rfl
  | ok v => exact congrArg Except.ok (List.append_assoc t u v).symm

/-- a sign in a colour is shown before every message without tags -/
theorem IsPaired.exists_shown {m : Text} (hm : tagless m = true) : ∃ t, shown (signed colour sign m) = .ok t := by
  obtain ⟨closed, before, hfinish, hplain⟩ := h.exists_plainText hsign hsign' m
  have hspace : tagless (' ' :: m) = true := tagless_append (t := [' ']) (by decide) hm
  obtain ⟨t, ht⟩ := Markup.exists_plainText ([], closed) hfinish (isPlain_piecesFrom hspace _ _ _)
  unfold shown
  rw [hplain, ht]
  exact ⟨_, rfl⟩

/-- no message is shown in which a closing tag without a name comes before any other tag -/
theorem IsPaired.shown_unopened {m : Text} (hm : '[' ∉ m) (hm' : '\\' ∉ m) (rest : Text) :
    ∃ position, shown (signed colour sign (m ++ '[' :: '/' :: ']' :: rest)) = .error (.nothingToClose position) := by
  obtain ⟨closed, before, hfinish, hplain⟩ := h.exists_plainText hsign hsign' (m ++ '[' :: '/' :: ']' :: rest)
  have hfuel : (m ++ '[' :: '/' :: ']' :: rest).length + 5 + 2 * colour.length
      = (rest.length + 6 + 2 * colour.length) + 1 + (' ' :: m).length := by
    simp only [List.length_cons, List.length_append]
    omega
  have hspace : '[' ∉ ' ' :: m := by
    simp only [List.mem_cons, not_or]
    exact ⟨by decide, hm⟩
  have hspace' : '\\' ∉ ' ' :: m := by
    simp only [List.mem_cons, not_or]
    exact ⟨by decide, hm'⟩
  have htag : tagAfter? ('/' :: ']' :: rest) = some (['/'], rest) := rfl
  have hunopened (position : Nat) :
      afterTag ['/'] position ([], closed) = .error (.nothingToClose position) := rfl
  unfold shown
  rw [hplain, hfuel, ← List.cons_append, piecesFrom_append hspace hspace', piecesFrom_tag htag]
  obtain ⟨t, ht⟩ := plainText_append ([], closed) (isPlain_plainBetween ((' ' :: m).reverse ++ [])) _
  rw [ht, plainText, plainText, hunopened]
  exact ⟨_, rfl⟩

end

theorem IsPaired.of_tags {colour : Text} (opening : ∀ t, tagAfter? (colour ++ ']' :: t) = some (colour, t))
    (closing : ∀ t, tagAfter? ('/' :: (colour ++ ']' :: t)) = some ('/' :: colour, t))
    (htags : ((afterTag colour 0 ([], []) >>= fun tags => afterTag ('/' :: colour) (colour.length + 3) tags >>=
      fun tags => tags.2.forM Tag.finish >>= fun _ => pure tags.1).toOption.any List.isEmpty) = true) :
    IsPaired colour := by
  obtain ⟨left, hok, hempty⟩ := Outcome.exists_ok_of_any htags
  obtain ⟨tags, ht, h⟩ := Outcome.bind_eq_ok_iff.mp hok
  obtain ⟨⟨left', closed⟩, ht', h⟩ := Outcome.bind_eq_ok_iff.mp h
  obtain ⟨_, hfinish, h⟩ := Outcome.bind_eq_ok_iff.mp h
  obtain rfl : left' = [] := (Except.ok.inj h).trans (List.isEmpty_iff.mp hempty)
  exact ⟨opening, closing, tags, closed, ht, ht', hfinish⟩

theorem isPaired_green : IsPaired "green" :=
  .of_tags (fun _ => rfl) (fun _ => rfl) (by decide +kernel)

theorem isPaired_red : IsPaired "red" :=
  .of_tags (fun _ => rfl) (fun _ => rfl) (by decide +kernel)

/-- the ends of a run are told in a line that can be shown, unless there is a tag in it -/
theorem exists_shown {m style : Text} (hm : tagless m = true) (hstyle : style = "success" ∨ style = "error") :
    ∃ t, shown (Status.line m style 0) = .ok t := by
  rcases hstyle with rfl | rfl
  · exact isPaired_green.exists_shown (by decide) (by decide) hm
  · exact isPaired_red.exists_shown (by decide) (by decide) hm

end DatabaseTypes.Markup
