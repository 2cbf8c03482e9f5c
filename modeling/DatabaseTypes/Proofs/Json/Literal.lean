import DatabaseTypes.Json.Reader
import DatabaseTypes.Json.Writer

/-!
# Texts are read back

A text in JSON of ASCII characters is read as that text, unless a high half of a surrogate pair stands right before a
low one in it: the escapes of the two are those of one character.

* `Text.halvesApart`         no two halves stand together that would make a pair
* `Json.literalChar_wire`    how a character is written
* `Json.readStringFrom_literalChar`   and read
* `Json.readString_literal`  a text is read back
-/

namespace DatabaseTypes

/-- does no high half of a surrogate pair stand right before a low one? -/
def Text.halvesApart : Text → Bool
  | c :: d :: t => !(Json.isHighSurrogate (charCode c) && Json.isLowSurrogate (charCode d)) && halvesApart (d :: t)
  | _ => true

theorem Text.halvesApart_of_cons {c : Char} {t : Text} (h : halvesApart (c :: t) = true) : halvesApart t = true := by
  cases t with
  | nil => rfl
  | cons d t => exact (Bool.and_eq_true_iff.mp h).2

/-! ## codes -/

theorem charCode_of_not_isHalf {c : Char} (h : isHalf c = false) : charCode c = c.toNat := by
  rw [charCode, h]
  rfl

/-- the code of a character that is no half is that of no half -/
theorem charCode_cases (c : Char) : isHalf c = true ∧ 0xd800 ≤ charCode c ∧ charCode c ≤ 0xdfff
    ∨ isHalf c = false ∧ (charCode c < 0xd800 ∨ 0xdfff < charCode c ∧ charCode c < 0x110000) := by
  cases h : isHalf c with
  | true =>
    simp only [isHalf, Bool.and_eq_true, decide_eq_true_eq] at h
    have hhalf : charCode c = c.toNat - halfShift := by
      rw [charCode, if_pos]
      simp only [isHalf, Bool.and_eq_true, decide_eq_true_eq]
      exact h
    rw [hhalf, halfShift]
    exact .inl ⟨rfl, by omega, by omega⟩
  | false =>
    have hvalid : c.toNat.isValidChar := c.valid
    rw [charCode_of_not_isHalf h]
    exact .inr ⟨rfl, hvalid⟩

/-- a character is the one with its code -/
theorem charOfCode_charCode (c : Char) : charOfCode (charCode c) = c := by
  rcases charCode_cases c with ⟨h, hlow, hhigh⟩ | ⟨h, hcode⟩
  · rw [charOfCode, if_pos ⟨hlow, hhigh⟩, halfChar, charCode, if_pos h]
    simp only [isHalf, Bool.and_eq_true, decide_eq_true_eq] at h
    rw [Nat.add_sub_cancel' (by rw [halfShift]; omega), Char.ofNat_toNat]
  · rw [charOfCode, if_neg (by omega), charCode_of_not_isHalf h, Char.ofNat_toNat]

namespace Json

/-! ## units -/

theorem hexDigit?_hexDigit (n : Nat) : Text.hexDigit? (Text.hexDigit n) = some (n % 16) := by
  have hall : ∀ m < 16, Text.hexDigit? (Nat.digitChar m) = some m := by decide
  exact hall (n % 16) (Nat.mod_lt _ (by decide))

/-- four digits are read as their unit, if something follows -/
theorem hexUnit?_hexadecimal {n : Nat} (hn : n < 0x10000) {rest : Text} (hrest : rest ≠ []) :
    hexUnit? (Text.hexadecimal 4 n ++ rest) = some (n, rest) := by
  cases rest with
  | nil => exact absurd rfl hrest
  | cons e t =>
    have htext : Text.hexadecimal 4 n ++ e :: t = Text.hexDigit (n / 16 / 16 / 16) :: Text.hexDigit (n / 16 / 16)
        :: Text.hexDigit (n / 16) :: Text.hexDigit n :: e :: t := rfl
    rw [htext, hexUnit?]
    simp only [hexDigit?_hexDigit]
    congr 2
    omega

theorem unitEscape_append (n : Nat) (rest : Text) :
    unitEscape n ++ rest = '\\' :: 'u' :: (Text.hexadecimal 4 n ++ rest) := rfl

/-- what follows is no escape of a low half -/
def NotLow (rest : Text) : Prop := ∀ after, rest = '\\' :: 'u' :: after →
  ∃ low last, hexUnit? after = some (low, last) ∧ isLowSurrogate low = false

/-- a unit by itself -/
theorem readUnits_single {n : Nat} (hn : n < 0x10000) {rest : Text} (hrest : rest ≠ [])
    (h : isHighSurrogate n = true → NotLow rest) :
    readUnits (Text.hexadecimal 4 n ++ rest) = .ok (charOfCode n, rest) := by
  unfold readUnits
  rw [hexUnit?_hexadecimal hn hrest]
  dsimp only
  split
  · rename_i hcond
    split
    · rename_i after
      obtain ⟨low, last, hlow, hnot⟩ := h (Bool.and_eq_true_iff.mp hcond).1 after rfl
      rw [hlow]
      dsimp only
      rw [if_neg (by simp [hnot])]
    · rfl
  · rfl

/-- two units that are a pair -/
theorem readUnits_pair {high low : Nat} (hhigh : isHighSurrogate high = true) (hlow : isLowSurrogate low = true)
    {rest : Text} (hrest : rest ≠ []) :
    readUnits (Text.hexadecimal 4 high ++ (unitEscape low ++ rest)) = .ok (pairChar high low, rest) := by
  have hsmall : high < 0x10000 ∧ low < 0x10000 := by
    simp only [isHighSurrogate, isLowSurrogate, Bool.and_eq_true, decide_eq_true_eq] at hhigh hlow
    omega
  have hdrop : ((unitEscape low ++ rest).drop 6).isEmpty = false := by
    have hlength : (unitEscape low).length = 6 := by
      rw [unitEscape, List.length_append, Text.length_hexadecimal]
      rfl
    rw [List.drop_append_of_le_length (Nat.le_of_eq hlength.symm), ← hlength, List.drop_length, List.nil_append]
    simpa using hrest
  unfold readUnits
  have hne : unitEscape low ++ rest ≠ [] := List.cons_ne_nil _ _
  rw [hexUnit?_hexadecimal hsmall.1 hne]
  dsimp only
  rw [hhigh, hdrop, Bool.not_false, Bool.and_self, if_pos rfl, unitEscape_append]
  split
  · rename_i e
    rw [← (List.cons.inj (List.cons.inj e).2).2, hexUnit?_hexadecimal hsmall.2 hrest]
    dsimp only
    rw [if_pos hlow]
  · rename_i hnot
    exact absurd rfl (hnot _)

/-! ## characters -/

/-- a character is written by the escape of its own, as it is, or by its units -/
theorem literalChar_wire (c : Char) :
    (∃ d, (c, d) ∈ escapes ∧ literalChar true c = ['\\', d])
      ∨ (32 ≤ c.toNat ∧ c.toNat < 127 ∧ c ≠ '"' ∧ c ≠ '\\' ∧ literalChar true c = [c])
      ∨ literalChar true c = unitEscapes (charCode c) := by
  have hascii (h : c.toNat < 127) : literalChar true c = literalChar false c := by
    have hcond : decide (127 ≤ c.toNat) = false := by simpa using h
    unfold literalChar
    rw [hcond]
    rfl
  rcases Nat.lt_or_ge c.toNat 127 with h | h
  · rw [hascii h]
    rcases literalChar_eq c with hescape | ⟨hcontrol, hunit⟩ | ⟨hge, hquote, hslash, hself⟩
    · exact .inl hescape
    · have hhalf : isHalf c = false := by simp [isHalf]; omega
      refine .inr (.inr ?_)
      rw [hunit, charCode_of_not_isHalf hhalf, unitEscapes, if_pos (by omega)]
      rfl
    · exact .inr (.inl ⟨hge, h, hquote, hslash, hself⟩)
  · have hne : ∀ d ∈ escapes.map Prod.fst, c ≠ d := by
      rintro d hd rfl
      have hall : ∀ d ∈ escapes.map Prod.fst, d.toNat < 127 := by simp [escapes]
      exact absurd (hall _ hd) (by omega)
    refine .inr (.inr ?_)
    rw [literalChar, if_neg (hne _ (by decide)), if_neg (hne _ (by decide)), if_neg (hne _ (by decide)),
      if_neg (hne _ (by decide)), if_neg (hne _ (by decide)), if_neg (hne _ (by decide)), if_neg (hne _ (by decide)),
      if_neg (by omega), if_pos (by simpa using h)]

theorem shortEscape?_of_mem : ∀ p ∈ escapes, shortEscape? p.2 = some p.1 ∧ p.2 ≠ 'u' := by decide

section
variable {opened read rest : Text} {fuel : Nat} {c : Char}

theorem readStringFrom_short {d : Char} (h : shortEscape? c = some d) (hu : c ≠ 'u') :
    readStringFrom opened (fuel + 1) read ('\\' :: c :: rest) = readStringFrom opened fuel (d :: read) rest := by
  rw [readStringFrom.eq_def]
  dsimp only
  rw [if_neg (by decide), if_pos rfl]
  split
  · rename_i e
    cases e
  · rename_i e
    exact absurd (List.cons.inj e).1 hu
  · rename_i e
    obtain ⟨rfl, rfl⟩ := List.cons.inj e
    rw [h]

theorem readStringFrom_unit : readStringFrom opened (fuel + 1) read ('\\' :: 'u' :: rest) = match readUnits rest with
    | .error s => .error s
    | .ok (d, last) => readStringFrom opened fuel (d :: read) last :=
  rfl

theorem readStringFrom_units {last : Text} (h : readUnits rest = .ok (c, last)) :
    readStringFrom opened (fuel + 1) read ('\\' :: 'u' :: rest) = readStringFrom opened fuel (c :: read) last := by
  rw [readStringFrom_unit, h]

theorem readStringFrom_self (h : 32 ≤ c.toNat) (hquote : c ≠ '"') (hslash : c ≠ '\\') :
    readStringFrom opened (fuel + 1) read (c :: rest) = readStringFrom opened fuel (c :: read) rest := by
  rw [readStringFrom.eq_def]
  dsimp only
  rw [if_neg hquote, if_neg hslash, if_neg (Nat.not_lt.mpr h)]

theorem readStringFrom_quote : readStringFrom opened (fuel + 1) read ('"' :: rest) = .ok (read.reverse, rest) := by
  rw [readStringFrom.eq_def]
  dsimp only
  rw [if_pos rfl]

/-- a character is read back, if what follows does not make a pair with it -/
theorem readStringFrom_literalChar (hrest : rest ≠ []) (h : isHighSurrogate (charCode c) = true → NotLow rest) :
    readStringFrom opened (fuel + 1) read (literalChar true c ++ rest)
      = readStringFrom opened fuel (c :: read) rest := by
  rcases literalChar_wire c with ⟨d, hd, htext⟩ | ⟨hge, _, hquote, hslash, htext⟩ | htext
  · obtain ⟨hshort, hu⟩ := shortEscape?_of_mem _ hd
    rw [htext]
    exact readStringFrom_short hshort hu
  · rw [htext]
    exact readStringFrom_self hge hquote hslash
  · rw [htext, unitEscapes]
    split
    · rename_i hsmall
      have hread := readUnits_single hsmall hrest h
      rw [charOfCode_charCode] at hread
      rw [unitEscape_append]
      exact readStringFrom_units hread
    -- a code above the units is that of a pair
    · rename_i hlarge
      have hcode := charCode_cases c
      have hchar : c.toNat = charCode c := by
        refine (charCode_of_not_isHalf ?_).symm
        rcases hcode with ⟨_, _, hle⟩ | ⟨hhalf, _⟩
        · omega
        · exact hhalf
      have hhigh : isHighSurrogate (0xd800 + (charCode c - 0x10000) / 0x400) = true := by
        simp only [isHighSurrogate, Bool.and_eq_true, decide_eq_true_eq]
        omega
      have hlow : isLowSurrogate (0xdc00 + (charCode c - 0x10000) % 0x400) = true := by
        simp only [isLowSurrogate, Bool.and_eq_true, decide_eq_true_eq]
        omega
      have hpair : pairChar (0xd800 + (charCode c - 0x10000) / 0x400) (0xdc00 + (charCode c - 0x10000) % 0x400)
          = c := by
        rw [pairChar, Nat.add_sub_cancel_left, Nat.add_sub_cancel_left, Nat.add_assoc, Nat.div_add_mod',
          Nat.add_sub_cancel' (by omega), ← hchar, Char.ofNat_toNat]
      have hread := readUnits_pair hhigh hlow hrest
      rw [hpair] at hread
      rw [List.append_assoc, unitEscape_append]
      exact readStringFrom_units hread

end

/-! ## texts -/

/-- what a text is written as does not begin with the escape of a low half, if the text does not begin with one -/
theorem notLow_literal {t rest : Text} (h : ∀ d ∈ t.head?, isLowSurrogate (charCode d) = false) :
    NotLow (t.flatMap (literalChar true) ++ '"' :: rest) := by
  intro after e
  cases t with
  | nil => exact absurd (List.cons.inj e).1 (by decide)
  | cons d t =>
    rw [List.flatMap_cons, List.append_assoc] at e
    have hrest : t.flatMap (literalChar true) ++ '"' :: rest ≠ [] :=
      List.append_ne_nil_of_right_ne_nil _ (List.cons_ne_nil _ _)
    generalize t.flatMap (literalChar true) ++ '"' :: rest = last at e hrest
    rcases literalChar_wire d with ⟨x, hx, htext⟩ | ⟨_, _, _, hslash, htext⟩ | htext
    · rw [htext] at e
      exact absurd (List.cons.inj (List.cons.inj e).2).1 (shortEscape?_of_mem _ hx).2
    · rw [htext] at e
      exact absurd (List.cons.inj e).1 hslash
    · rw [htext, unitEscapes] at e
      have hcode := charCode_cases d
      split at e
      · rename_i hsmall
        rw [unitEscape_append] at e
        rw [← (List.cons.inj (List.cons.inj e).2).2]
        exact ⟨_, _, hexUnit?_hexadecimal hsmall hrest, h d rfl⟩
      · rename_i hlarge
        rw [List.append_assoc, unitEscape_append] at e
        rw [← (List.cons.inj (List.cons.inj e).2).2]
        refine ⟨_, _, hexUnit?_hexadecimal (by omega) (List.cons_ne_nil _ _), ?_⟩
        simp only [isLowSurrogate, Bool.and_eq_false_iff, decide_eq_false_iff_not]
        omega

theorem readStringFrom_literal {t : Text} (h : t.halvesApart = true) (opened read rest : Text) {fuel : Nat}
    (hfuel : t.length < fuel) :
    readStringFrom opened fuel read (t.flatMap (literalChar true) ++ '"' :: rest) = .ok (read.reverse ++ t, rest) := by
  induction t generalizing read fuel with
  | nil =>
    obtain ⟨fuel, rfl⟩ : ∃ n, fuel = n + 1 := ⟨fuel - 1, by simp at hfuel; omega⟩
    rw [List.append_nil]
    exact readStringFrom_quote
  | cons c t ih =>
    obtain ⟨fuel, rfl⟩ : ∃ n, fuel = n + 1 := ⟨fuel - 1, by simp at hfuel; omega⟩
    rw [List.flatMap_cons, List.append_assoc, readStringFrom_literalChar
      (List.append_ne_nil_of_right_ne_nil _ (List.cons_ne_nil _ _)) fun hhigh => notLow_literal fun d hd => ?_,
      ih (Text.halvesApart_of_cons h) (c :: read) (by simpa using hfuel), List.reverse_cons, List.append_assoc]
    · rfl
    · cases t with
      | nil => cases hd
      | cons e t =>
        rw [← Option.some.inj hd]
        have hpair := (Bool.and_eq_true_iff.mp h).1
        rw [hhigh, Bool.true_and, Bool.not_eq_true'] at hpair
        exact hpair

/-- a text is read back -/
theorem readString_literal {t : Text} (h : t.halvesApart = true) (rest : Text) {fuel : Nat} (hfuel : t.length < fuel) :
    readString fuel (t.flatMap (literalChar true) ++ '"' :: rest) = .ok (t, rest) :=
  readStringFrom_literal h _ [] rest hfuel

end Json
end DatabaseTypes
