import DatabaseTypes.Proofs.Named

/-!
# Texts that settle what they say

A piece of the output settles what it was written from and where it ends, as long as what comes
after it is something that can come after it.  So two outputs that are alike say the same, piece by
piece.

* `Settles`          the pieces of which this is true
* `Settles.joined`   pieces with a separator between them and an ending after the last
* `settles_literal`, `settles_key`, `settles_texts`   string literals, keys, lists of string literals
-/

namespace DatabaseTypes

variable {α β : Type}

/-- before a text of `after`, the text `f a` of something valid settles `g a` and where it ends -/
def Settles (valid : α → Prop) (after : Text → Prop) (f : α → Text) (g : α → β) : Prop :=
  ∀ ⦃a b s t⦄, valid a → valid b → after s → after t → f a ++ s = f b ++ t → g a = g b ∧ s = t

section
variable {valid : α → Prop} {after : Text → Prop} {f : α → Text} {g : α → β}

theorem Settles.mono {valid' : α → Prop} {after' : Text → Prop} (h : Settles valid after f g)
    (hv : ∀ a, valid' a → valid a) (ha : ∀ s, after' s → after s) : Settles valid' after' f g :=
  fun _ _ _ _ va vb hs ht e => h (hv _ va) (hv _ vb) (ha _ hs) (ha _ ht) e

/-- what is settled whatever comes after is settled before anything -/
theorem Settles.anywhere (h : Settles valid (fun _ => True) f g) (after : Text → Prop) :
    Settles valid after f g :=
  h.mono (fun _ h => h) fun _ _ => trivial

theorem Settles.congr {f' : α → Text} (h : Settles valid after f g) (e : ∀ a, f' a = f a) :
    Settles valid after f' g := by
  rw [funext e]
  exact h

theorem Settles.imp {γ : Type} {g' : α → γ} (h : Settles valid after f g)
    (hg : ∀ a b, g a = g b → g' a = g' b) : Settles valid after f g' := by
  intro a b s t ha hb hs ht e
  obtain ⟨h, e⟩ := h ha hb hs ht e
  exact ⟨hg a b h, e⟩

theorem Settles.comap {γ : Type} (h : Settles valid after f g) (k : γ → α) :
    Settles (fun c => valid (k c)) after (fun c => f (k c)) fun c => g (k c) :=
  fun _ _ _ _ ha hb hs ht e => h ha hb hs ht e

/-- one line after another -/
theorem Settles.line {γ : Type} {f' : α → Text} {g' : α → γ} (h : Settles valid (fun _ => True) f g)
    (h' : Settles valid after f' g') :
    Settles valid after (fun a => f a ++ ['\n'] ++ f' a) fun a => (g a, g' a) := by
  intro a b s t ha hb hs ht e
  simp only [List.append_assoc] at e
  obtain ⟨hg, e⟩ := h ha hb trivial trivial e
  obtain ⟨hg', e⟩ := h' ha hb hs ht (List.append_cancel_left e)
  exact ⟨Prod.ext hg hg', e⟩

end

/-- a text of some characters before one that is none of them -/
theorem settles_span (p : Char → Bool) :
    Settles (fun u : Text => ∀ c ∈ u, p c = true) (fun s => ∀ c ∈ s.head?, p c = false) id id := by
  intro u v s t hu hv hs ht e
  induction u generalizing v with
  | nil =>
    cases v with
    | nil => exact ⟨rfl, e⟩
    | cons d v =>
      have hd := hs d (by rw [show s = d :: v ++ t from e]; rfl)
      rw [hv d List.mem_cons_self] at hd
      cases hd
  | cons c u ih =>
    cases v with
    | nil =>
      have hc := ht c (by rw [← show c :: u ++ s = t from e]; rfl)
      rw [hu c List.mem_cons_self] at hc
      cases hc
    | cons d v =>
      obtain ⟨rfl, er⟩ := List.cons.inj e
      obtain ⟨h, hr⟩ := ih (fun c hc => hu c (List.mem_cons_of_mem _ hc))
        (fun c hc => hv c (List.mem_cons_of_mem _ hc)) er
      exact ⟨congrArg (c :: ·) h, hr⟩

/-! ## separators -/

/-- do two texts differ at some place that both have? -/
def Text.apart : Text → Text → Bool
  | c :: s, d :: t => c != d || apart s t
  | _, _ => false

theorem Text.ne_of_apart {u v : Text} (h : Text.apart u v = true) (s t : Text) : u ++ s ≠ v ++ t := by
  induction u generalizing v with
  | nil => cases h
  | cons c u ih =>
    cases v with
    | nil => cases h
    | cons d v =>
      intro e
      obtain ⟨rfl, er⟩ := List.cons.inj e
      rw [Text.apart, Bool.or_eq_true] at h
      exact ih (h.resolve_left (by simp)) er

section
variable {valid : α → Prop} {f : α → Text} {g : α → β} {sep ending : Text}

/-- pieces that each stand after a separator begin with one, and if there are none with what comes
after them -/
theorem prefix_flatMap (f : α → Text) (as : List α) {s : Text} (h : ending <+: s) :
    sep <+: (as.flatMap fun a => sep ++ f a) ++ s
      ∨ ending <+: (as.flatMap fun a => sep ++ f a) ++ s := by
  cases as with
  | nil => exact .inr h
  | cons a as => exact .inl ⟨f a ++ ((as.flatMap fun a => sep ++ f a) ++ s), by simp⟩

variable (sep ending)
  (hf : Settles valid (fun s => sep <+: s ∨ ending <+: s) f g)
  (hsep : ∀ a s t, valid a → sep ++ (f a ++ s) ≠ ending ++ t)
include hf hsep

/-- pieces, each after a separator -/
theorem Settles.flatMap : Settles (fun as => ∀ a ∈ as, valid a) (ending <+: ·)
    (fun as => as.flatMap fun a => sep ++ f a) (List.map g) := by
  intro as bs s t has hbs hs ht e
  dsimp only at e
  induction as generalizing bs with
  | nil =>
    cases bs with
    | nil => exact ⟨rfl, e⟩
    | cons b bs =>
      obtain ⟨r, rfl⟩ := hs
      rw [List.flatMap_cons, List.append_assoc, List.append_assoc] at e
      exact absurd e.symm (hsep b _ _ (hbs b List.mem_cons_self))
  | cons a as ih =>
    cases bs with
    | nil =>
      obtain ⟨r, rfl⟩ := ht
      rw [List.flatMap_cons, List.append_assoc, List.append_assoc] at e
      exact absurd e (hsep a _ _ (has a List.mem_cons_self))
    | cons b bs =>
      rw [List.flatMap_cons, List.flatMap_cons] at e
      simp only [List.append_assoc] at e
      obtain ⟨h, e⟩ := hf (has a List.mem_cons_self) (hbs b List.mem_cons_self)
        (prefix_flatMap f as hs) (prefix_flatMap f bs ht) (List.append_cancel_left e)
      obtain ⟨hr, e⟩ := ih (fun a ha => has a (List.mem_cons_of_mem _ ha))
        (fun b hb => hbs b (List.mem_cons_of_mem _ hb)) e
      exact ⟨by rw [List.map_cons, List.map_cons, h, hr], e⟩

/-- pieces with a separator between them; neither a piece nor one after a separator begins like the
ending -/
theorem Settles.joined (hend : ∀ a s t, valid a → f a ++ s ≠ ending ++ t) :
    Settles (fun as => ∀ a ∈ as, valid a) (ending <+: ·)
      (fun as => Text.joined sep (as.map f)) (List.map g) := by
  have hj : ∀ a as, Text.joined sep ((a :: as).map f) = f a ++ as.flatMap fun a => sep ++ f a := by
    intro a as
    rw [List.map_cons, Text.joined_cons_eq_flatMap, List.flatMap_map]
  intro as bs s t has hbs hs ht e
  cases as with
  | nil =>
    cases bs with
    | nil => exact ⟨rfl, e⟩
    | cons b bs =>
      obtain ⟨r, rfl⟩ := hs
      simp only [hj, List.append_assoc] at e
      exact absurd e.symm (hend b _ _ (hbs b List.mem_cons_self))
  | cons a as =>
    cases bs with
    | nil =>
      obtain ⟨r, rfl⟩ := ht
      simp only [hj, List.append_assoc] at e
      exact absurd e (hend a _ _ (has a List.mem_cons_self))
    | cons b bs =>
      simp only [hj, List.append_assoc] at e
      obtain ⟨h, e⟩ := hf (has a List.mem_cons_self) (hbs b List.mem_cons_self)
        (prefix_flatMap f as hs) (prefix_flatMap f bs ht) e
      obtain ⟨hr, e⟩ := Settles.flatMap sep ending hf hsep (fun a ha => has a (List.mem_cons_of_mem _ ha))
        (fun b hb => hbs b (List.mem_cons_of_mem _ hb)) hs ht e
      exact ⟨by rw [List.map_cons, List.map_cons, h, hr], e⟩

end

/-! ## string literals -/

namespace Json

theorem escapes_inj : ∀ p ∈ escapes, ∀ q ∈ escapes, p.2 = q.2 → p.1 = q.1 := by decide

theorem escapes_ne : ∀ p ∈ escapes, p.2 ≠ 'u' := by decide

theorem hexadecimal_inj : ∀ m < 32, ∀ n < 32, Text.hexadecimal 4 m = Text.hexadecimal 4 n → m = n := by
  decide +kernel

theorem literalChar_ne_quote (c : Char) (s t : Text) : literalChar false c ++ s ≠ '"' :: t := by
  intro e
  rcases literalChar_eq c with ⟨d, _, h⟩ | ⟨_, h⟩ | ⟨_, hq, _, h⟩ <;> rw [h] at e
  · cases e
  · cases e
  · exact hq (List.cons.inj e).1

end Json

theorem settles_literalChar :
    Settles (fun _ => True) (fun _ => True) (Json.literalChar false) id := by
  intro c d s t _ _ _ _ e
  rcases Json.literalChar_eq c with ⟨x, hx, hc⟩ | ⟨hx, hc⟩ | ⟨_, _, hb, hc⟩ <;>
    rcases Json.literalChar_eq d with ⟨y, hy, hd⟩ | ⟨hy, hd⟩ | ⟨_, _, hb', hd⟩ <;>
    rw [hc, hd] at e
  -- two escapes, with the character that names an escape or with a number
  · obtain ⟨rfl, hr⟩ := List.cons.inj (List.cons.inj e).2
    exact ⟨Json.escapes_inj _ hx _ hy rfl, hr⟩
  · exact absurd (List.cons.inj (List.cons.inj e).2).1 (Json.escapes_ne _ hx)
  · exact absurd (List.cons.inj e).1.symm hb'
  · exact absurd (List.cons.inj (List.cons.inj e).2).1.symm (Json.escapes_ne _ hy)
  · obtain ⟨h, e⟩ := List.append_inj (List.cons.inj (List.cons.inj e).2).2
      (by rw [Text.length_hexadecimal, Text.length_hexadecimal])
    exact ⟨Char.toNat_inj.mp (Json.hexadecimal_inj _ hx _ hy h), e⟩
  · exact absurd (List.cons.inj e).1.symm hb'
  · exact absurd (List.cons.inj e).1 hb
  · exact absurd (List.cons.inj e).1 hb
  · exact List.cons.inj e

/-- a string literal settles its text, whatever comes after it -/
theorem settles_literal : Settles (fun _ => True) (fun _ => True) (Json.literal false) id := by
  intro u v s t _ _ _ _ e
  have hchars := Settles.flatMap [] ['"']
    (settles_literalChar.anywhere _) (fun c s t _ => Json.literalChar_ne_quote c s t)
  unfold Json.literal at e
  rw [List.cons_append, List.append_assoc, List.cons_append, List.append_assoc] at e
  obtain ⟨h, e⟩ := hchars (fun _ _ => trivial) (fun _ _ => trivial) ⟨s, rfl⟩ ⟨t, rfl⟩
    (List.cons.inj e).2
  exact ⟨by simpa using h, (List.cons.inj e).2⟩

/-- a text in JSON settles it -/
theorem settles_text (style : Json.Style) (hstyle : style.ascii = false) :
    Settles (fun v : Json => v.isText = true) (fun _ => True) (Json.written style) id := by
  intro v w s t hv hw _ _ e
  obtain ⟨u, rfl⟩ := Json.exists_of_isText hv
  obtain ⟨u', rfl⟩ := Json.exists_of_isText hw
  rw [Json.written_text, Json.written_text, hstyle] at e
  obtain ⟨h, e⟩ := settles_literal trivial trivial trivial trivial e
  exact ⟨congrArg Json.text h, e⟩

theorem Json.head?_written {style : Json.Style} {v : Json} (h : v.isText = true) :
    (v.written style).head? = some '"' := by
  obtain ⟨t, rfl⟩ := Json.exists_of_isText h
  rfl

theorem append_ne_cons {u : Text} {c d : Char} (h : u.head? = some c) (hne : c ≠ d) (s t : Text) :
    u ++ s ≠ d :: t := by
  cases u with
  | nil => cases h
  | cons c u =>
    cases h
    intro e
    exact hne (List.cons.inj e).1

/-- a list of texts in JSON settles them -/
theorem settles_texts : Settles (fun vs : List Json => ∀ v ∈ vs, v.isText = true) (fun _ => True)
    (fun vs => (Json.list vs).written .compact) id := by
  intro vs ws s t hvs hws _ _ e
  have hitems := Settles.joined [','] [']']
    ((settles_text .compact rfl).anywhere _)
    (fun v s t _ e => absurd (List.cons.inj e).1 (by decide))
    (fun v s t hv => append_ne_cons (Json.head?_written hv) (by decide) s t)
  simp only [Json.written_list, Json.writtenItems_eq_map] at e
  rw [List.cons_append, List.append_assoc, List.cons_append, List.append_assoc] at e
  obtain ⟨h, e⟩ := hitems hvs hws ⟨s, rfl⟩ ⟨t, rfl⟩ (List.cons.inj e).2
  exact ⟨by simpa using h, (List.cons.inj e).2⟩

/-! ## keys -/

/-- an identifier settles itself before a character that is not one of an identifier -/
theorem settles_identifier : Settles (fun name : Text => Key.isIdentifier name = true)
    (fun s => ∀ c ∈ s.head?, Key.isTail c = false) id id :=
  fun _ _ _ _ hu hv => settles_span Key.isTail (Key.isTail_of_mem hu) (Key.isTail_of_mem hv)

/-- a key settles its name before a colon -/
theorem settles_key : Settles (fun _ => True) (·.head? = some ':') Key.ofName id := by
  intro u v s t _ _ hs ht e
  have hline : ∀ {e s : Text}, (e = [] ∨ e = ['\n']) → s.head? = some ':' →
      ∀ c ∈ (e ++ s).head?, Key.isTail c = false := by
    rintro e s (rfl | rfl) hs c hc
    · rw [List.nil_append, hs] at hc
      cases hc
      decide
    · cases hc
      decide
  have hquote : ∀ {i : Text} (x r s : Text), Key.isIdentifier i = true →
      i ++ x ≠ Json.literal false r ++ s := by
    intro i x r s hi e
    obtain ⟨c, i, rfl, hc⟩ := Key.exists_cons_of_isIdentifier hi
    exact Key.ne_of_isTail hc (by decide) (List.cons.inj e).1
  unfold Key.ofName at e
  by_cases hu : Key.isBare u = true <;> by_cases hv : Key.isBare v = true
  · rw [if_pos hu, if_pos hv] at e
    obtain ⟨i, x, hi, hx, rfl⟩ := Key.exists_of_isBare hu
    obtain ⟨j, y, hj, hy, rfl⟩ := Key.exists_of_isBare hv
    rw [List.append_assoc, List.append_assoc] at e
    obtain ⟨h, hr⟩ := settles_identifier hi hj (hline hx hs) (hline hy ht) e
    subst h
    rcases hx with rfl | rfl <;> rcases hy with rfl | rfl
    · exact ⟨rfl, hr⟩
    · rw [show s = '\n' :: t from hr] at hs
      cases hs
    · rw [← show '\n' :: s = t from hr] at ht
      cases ht
    · exact ⟨rfl, (List.cons.inj hr).2⟩
  · rw [if_pos hu, if_neg hv] at e
    obtain ⟨i, x, hi, _, rfl⟩ := Key.exists_of_isBare hu
    rw [List.append_assoc] at e
    exact absurd e (hquote _ _ _ hi)
  · rw [if_neg hu, if_pos hv] at e
    obtain ⟨i, x, hi, _, rfl⟩ := Key.exists_of_isBare hv
    rw [List.append_assoc] at e
    exact absurd e.symm (hquote _ _ _ hi)
  · rw [if_neg hu, if_neg hv] at e
    exact settles_literal trivial trivial trivial trivial e

end DatabaseTypes
