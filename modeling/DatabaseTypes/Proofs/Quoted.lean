import DatabaseTypes.Proofs.Json.Literal

/-!
# String literals of declarations

What a reader of the output takes a string literal for: between its quotes characters stand for themselves, and a
backslash begins an escape.  The code of half of a surrogate pair is a character of its own.

* `Quoted.escape?`            an escape, and what follows it
* `Quoted.Denotes`            what stands between two quotes, and the text it stands for
* `Quoted.Denotes.unique`     it stands for one text at most
* `Quoted.denotes_self_iff`   the texts that stand for themselves
* `Quoted.denotes_literal`    what JSON writes between its quotes stands for the text that is written
* `Quoted.Literal`            a string literal with its quotes
-/

namespace DatabaseTypes.Quoted

/-! ## escapes -/

/-- the value of `n` hexadecimal digits that come after digits with a value, and what follows them -/
def digits? : Nat → Nat → Text → Option (Nat × Text)
  | 0, value, t => some (value, t)
  | _ + 1, _, [] => none
  | n + 1, value, c :: t => (Text.hexDigit? c).bind fun d => digits? n (value * 16 + d) t

/-- the value of hexadecimal digits up to a closing brace that come after digits with a value, and what follows it -/
def braced? : Nat → Text → Option (Nat × Text)
  | _, [] => none
  | value, c :: t =>
    if c = '\x7d' then some (value, t)
    else (Text.hexDigit? c).bind fun d => braced? (value * 16 + d) t

/-- the code after `\u`, in braces or with four digits, and what follows it -/
def unicode? : Text → Option (Nat × Text)
  | '\x7b' :: c :: t =>
    if c = '\x7d' then none else (braced? 0 (c :: t)).filter fun r => decide (r.1 ≤ 0x10ffff)
  | t => digits? 4 0 t

/-- the characters that a letter or a quote after a backslash stands for, if not for itself -/
def named : List (Char × Char) :=
  [('b', '\x08'), ('f', '\x0c'), ('n', '\n'), ('r', '\r'), ('t', '\t'), ('v', '\x0b')]

/-- the characters at which a line ends -/
def isLineEnd (c : Char) : Bool := c = '\n' || c = '\r' || c = '\u2028' || c = '\u2029'

/-- what an escape stands for, from the text after its backslash, and what follows it; a line that goes on after a
backslash stands for nothing, and no digit but a zero by itself is an escape -/
def escape? : Text → Option (Text × Text)
  | [] => none
  | c :: t =>
    if c = 'x' then (digits? 2 0 t).map fun r => ([charOfCode r.1], r.2)
    else if c = 'u' then (unicode? t).map fun r => ([charOfCode r.1], r.2)
    else if c = '0' then if t.head?.any Text.isDigit then none else some (['\x00'], t)
    else if Text.isDigit c then none
    else if isLineEnd c then some ([], if c = '\r' ∧ t.head? = some '\n' then t.tail else t)
    else some ([(named.lookup c).getD c], t)

theorem length_of_digits? {n value m : Nat} {t rest : Text} (h : digits? n value t = some (m, rest)) :
    rest.length ≤ t.length := by
  induction n generalizing value t with
  | zero =>
    cases h
    exact Nat.le_refl _
  | succ n ih =>
    cases t with
    | nil => cases h
    | cons c t =>
      obtain ⟨d, _, h⟩ := Option.bind_eq_some_iff.mp h
      exact Nat.le_succ_of_le (ih h)

theorem length_of_braced? {value m : Nat} {t rest : Text} (h : braced? value t = some (m, rest)) :
    rest.length ≤ t.length := by
  induction t generalizing value with
  | nil => cases h
  | cons c t ih =>
    rw [braced?] at h
    split at h
    · cases h
      exact Nat.le_succ _
    · obtain ⟨d, _, h⟩ := Option.bind_eq_some_iff.mp h
      exact Nat.le_succ_of_le (ih h)

theorem length_of_unicode? {m : Nat} {t rest : Text} (h : unicode? t = some (m, rest)) : rest.length ≤ t.length := by
  unfold unicode? at h
  split at h
  · split at h
    · cases h
    · exact Nat.le_succ_of_le (length_of_braced? (Option.filter_eq_some_iff.mp h).1)
  · exact length_of_digits? h

/-- an escape stands for one character at most -/
theorem length_of_escape? {u s rest : Text} (h : escape? u = some (s, rest)) :
    s.length ≤ 1 ∧ rest.length < u.length := by
  cases u with
  | nil => cases h
  | cons c t =>
    have htail : t.tail.length ≤ t.length := by
      rw [List.length_tail]
      exact Nat.sub_le _ _
    rw [escape?] at h
    rw [List.length_cons, Nat.lt_succ_iff]
    split at h
    · obtain ⟨r, hr, h⟩ := Option.map_eq_some_iff.mp h
      cases h
      exact ⟨Nat.le_refl 1, length_of_digits? hr⟩
    split at h
    · obtain ⟨r, hr, h⟩ := Option.map_eq_some_iff.mp h
      cases h
      exact ⟨Nat.le_refl 1, length_of_unicode? hr⟩
    split at h
    · split at h
      · cases h
      · cases h
        exact ⟨Nat.le_refl 1, Nat.le_refl _⟩
    split at h
    · cases h
    split at h
    · cases h
      refine ⟨Nat.zero_le 1, ?_⟩
      split
      · exact htail
      · exact Nat.le_refl _
    · cases h
      exact ⟨Nat.le_refl 1, Nat.le_refl _⟩

/-! ## between quotes -/

/-- does a character stand for itself between two quotes? -/
def isPlain (quote c : Char) : Bool := c != quote && c != '\\' && c != '\n' && c != '\r'

/-- the text that stands between two quotes, and the text for which it stands -/
inductive Denotes (quote : Char) : Text → Text → Prop where
  | nil : Denotes quote [] []
  | plain {c : Char} {t s : Text} (hc : isPlain quote c = true) (h : Denotes quote t s) :
    Denotes quote (c :: t) (c :: s)
  | escape {u t r s : Text} (hu : escape? u = some (r, t)) (h : Denotes quote t s) :
    Denotes quote ('\\' :: u) (r ++ s)

section
variable {quote : Char} {t s : Text}

theorem Denotes.unique {s' : Text} (h : Denotes quote t s) (h' : Denotes quote t s') : s = s' := by
  have hslash : isPlain quote '\\' = false := by simp [isPlain]
  induction h generalizing s' with
  | nil =>
    cases h'
    rfl
  | plain hc _ ih =>
    cases h' with
    | plain _ h' => rw [ih h']
    | escape =>
      rw [hslash] at hc
      cases hc
  | escape hu _ ih =>
    cases h' with
    | plain hc =>
      rw [hslash] at hc
      cases hc
    | escape hu' h' =>
      cases hu.symm.trans hu'
      rw [ih h']

/-- a text is no shorter than what it stands for, and as long only if that is the text itself -/
theorem Denotes.length_le (h : Denotes quote t s) :
    s.length ≤ t.length ∧ (s.length = t.length → s = t ∧ t.all (isPlain quote) = true) := by
  induction h with
  | nil => exact ⟨Nat.le_refl 0, fun _ => ⟨rfl, rfl⟩⟩
  | plain hc _ ih =>
    refine ⟨Nat.succ_le_succ ih.1, fun e => ?_⟩
    obtain ⟨rfl, hall⟩ := ih.2 (Nat.succ.inj e)
    exact ⟨rfl, by rw [List.all_cons, hc, hall, Bool.and_self]⟩
  | escape hu _ ih =>
    obtain ⟨hr, hrest⟩ := length_of_escape? hu
    rw [List.length_append, List.length_cons]
    exact ⟨by omega, fun e => absurd e (by omega)⟩

theorem denotes_of_isPlain (h : t.all (isPlain quote) = true) : Denotes quote t t := by
  induction t with
  | nil => exact .nil
  | cons c t ih =>
    rw [List.all_cons, Bool.and_eq_true] at h
    exact .plain h.1 (ih h.2)

/-- the texts that stand for themselves are those without the quote, backslashes and ends of lines -/
theorem denotes_self_iff : Denotes quote t t ↔ t.all (isPlain quote) = true :=
  ⟨fun h => (h.length_le.2 rfl).2, denotes_of_isPlain⟩

end

/-! ## JSON -/

theorem escape?_of_mem (rest : Text) : ∀ p ∈ Json.escapes, escape? (p.2 :: rest) = some ([p.1], rest) := by
  intro p hp
  simp only [Json.escapes, List.mem_cons, List.not_mem_nil, or_false] at hp
  rcases hp with rfl | rfl | rfl | rfl | rfl | rfl | rfl
  all_goals rfl

theorem digits?_hexadecimal {n : Nat} (hn : n < 0x10000) (rest : Text) :
    digits? 4 0 (Text.hexadecimal 4 n ++ rest) = some (n, rest) := by
  have htext : Text.hexadecimal 4 n ++ rest = Text.hexDigit (n / 16 / 16 / 16) :: Text.hexDigit (n / 16 / 16)
      :: Text.hexDigit (n / 16) :: Text.hexDigit n :: rest := rfl
  rw [htext]
  simp only [digits?, Json.hexDigit?_hexDigit, Option.bind_some]
  congr 2
  omega

theorem hexDigit_ne_brace (n : Nat) : Text.hexDigit n ≠ '\x7b' := by
  have hall : ∀ m < 16, Nat.digitChar m ≠ '\x7b' := by decide
  exact hall (n % 16) (Nat.mod_lt _ (by decide))

theorem escape?_hexadecimal {c : Char} (hc : c.toNat < 32) (rest : Text) :
    escape? ('u' :: (Text.hexadecimal 4 c.toNat ++ rest)) = some ([c], rest) := by
  have hhalf : isHalf c = false := by
    simp [isHalf]
    omega
  have hcode : charOfCode c.toNat = c := by
    rw [← charCode_of_not_isHalf hhalf]
    exact charOfCode_charCode c
  have hunicode : unicode? (Text.hexadecimal 4 c.toNat ++ rest) = some (c.toNat, rest) := by
    rw [← digits?_hexadecimal (n := c.toNat) (by omega) rest]
    unfold unicode?
    split
    · rename_i e
      exact absurd (List.cons.inj e).1 (hexDigit_ne_brace _)
    · rfl
  have hescape : escape? ('u' :: (Text.hexadecimal 4 c.toNat ++ rest))
      = (unicode? (Text.hexadecimal 4 c.toNat ++ rest)).map fun r => ([charOfCode r.1], r.2) := rfl
  rw [hescape, hunicode, Option.map_some, hcode]

/-- what JSON writes between double quotes stands for the text that is written -/
theorem denotes_literal (t : Text) : Denotes '"' (t.flatMap (Json.literalChar false)) t := by
  induction t with
  | nil => exact .nil
  | cons c t ih =>
    rw [List.flatMap_cons]
    rcases Json.literalChar_eq c with ⟨d, hd, e⟩ | ⟨hc, e⟩ | ⟨hc, hquote, hslash, e⟩ <;> rw [e]
    · exact .escape (escape?_of_mem _ _ hd) ih
    · exact .escape (escape?_hexadecimal hc _) ih
    · -- a character that JSON leaves as it is ends no line
      have hne : ∀ d : Char, d.toNat < 32 → c ≠ d := by
        rintro d hd rfl
        exact Nat.not_lt.mpr hc hd
      refine .plain ?_ ih
      simp [isPlain, hquote, hslash, hne '\n' (by decide), hne '\r' (by decide)]

/-! ## literals -/

/-- a string literal between quotes, and the text for which it stands -/
def Literal (quote : Char) (token s : Text) : Prop := ∃ t, token = quote :: t ++ [quote] ∧ Denotes quote t s

theorem Literal.unique {quote : Char} {token s s' : Text} (h : Literal quote token s) (h' : Literal quote token s') :
    s = s' := by
  obtain ⟨t, rfl, ht⟩ := h
  obtain ⟨t', e, ht'⟩ := h'
  obtain rfl : t = t' := List.append_cancel_right (List.cons.inj e).2
  exact ht.unique ht'

theorem literal_json (t : Text) : Literal '"' (Json.literal false t) t := ⟨_, rfl, denotes_literal t⟩

end DatabaseTypes.Quoted
