import DatabaseTypes.Json.Reader
import DatabaseTypes.Json.Writer
import DatabaseTypes.Proofs.Numeral
import DatabaseTypes.Proofs.Shortest
import Mathlib.Data.List.TakeWhile

/-!
# Numbers are read back

The JSON text of an integer is read as that integer, and the text of a finite number as that number.

* `Decimal.Notation`         a number in decimal: digits, decimal places and an exponent of ten
* `Json.readUnsigned_text`   how it is read
* `Json.readNumber_ofInt`    an integer is read back
* `Json.readNumber_float`    and so is a finite number
-/

namespace DatabaseTypes

/-! ## digits -/

namespace Decimal

/-- a text of decimal digits -/
def Digits (t : Text) : Prop := ∀ c ∈ t, Text.isDigit c = true

theorem digits_ofNat (n : Nat) : Digits (Text.ofNat n) := by
  intro c hc
  have hd : c.isDigit = true := Nat.isDigit_of_mem_toDigits (by decide) (by decide) hc
  simp only [Char.isDigit, Bool.and_eq_true, decide_eq_true_eq] at hd
  simp only [Text.isDigit, Bool.and_eq_true, decide_eq_true_eq]
  exact hd

theorem digits_replicate (n : Nat) : Digits (List.replicate n '0') := by
  intro c hc
  rw [List.eq_of_mem_replicate hc]
  rfl

theorem Digits.append {s t : Text} (hs : Digits s) (ht : Digits t) : Digits (s ++ t) :=
  List.forall_mem_append.mpr ⟨hs, ht⟩

theorem Digits.subset {s t : Text} (hs : Digits s) (h : t ⊆ s) : Digits t := fun c hc => hs c (h hc)

/-- digits end where no digit follows -/
theorem spanDigits_append {digits rest : Text} (h : Digits digits)
    (hrest : ∀ c ∈ rest.head?, Text.isDigit c = false) :
    spanDigits (digits ++ rest) = (digits, rest) := by
  have htake : rest.takeWhile Text.isDigit = [] ∧ rest.dropWhile Text.isDigit = rest := by
    cases rest with
    | nil => exact ⟨rfl, rfl⟩
    | cons c rest =>
      have hc : ¬ Text.isDigit c = true := Bool.not_eq_true _ ▸ hrest c rfl
      exact ⟨List.takeWhile_cons_of_neg hc, List.dropWhile_cons_of_neg hc⟩
  rw [spanDigits, List.takeWhile_append_of_pos h, List.dropWhile_append_of_pos h, htake.1, htake.2, List.append_nil]

theorem digitsValue_eq (t : Text) : digitsValue t = Nat.ofDigitChars 10 t 0 := by
  rw [Nat.ofDigitChars_eq_foldl, digitsValue]
  congr 1
  funext n c
  rw [Nat.mul_comm]

theorem digitsValue_append (s t : Text) : digitsValue (s ++ t) = digitsValue s * 10 ^ t.length + digitsValue t := by
  rw [digitsValue_eq, digitsValue_eq, digitsValue_eq, Nat.ofDigitChars_append, Nat.ofDigitChars_eq_ofDigitChars_zero,
    Nat.mul_comm]

theorem digitsValue_replicate (n : Nat) : digitsValue (List.replicate n '0') = 0 := by
  rw [digitsValue_eq, Nat.ofDigitChars_replicate_zero, Nat.mul_zero]

theorem digitsValue_zeros (n : Nat) (t : Text) : digitsValue (List.replicate n '0' ++ t) = digitsValue t := by
  rw [digitsValue_append, digitsValue_replicate, Nat.zero_mul, Nat.zero_add]

theorem digitsValue_ofNat (n : Nat) : digitsValue (Text.ofNat n) = n := by
  rw [digitsValue_eq]
  exact Nat.ofDigitChars_ten_toDigits

theorem digitsValue_lt {t : Text} (h : Digits t) : digitsValue t < 10 ^ t.length := by
  induction t using List.reverseRecOn with
  | nil => exact Nat.one_pos
  | append_singleton t c ih =>
    have hc : c.toNat ≤ '9'.toNat := by
      have hdigit := h c (List.mem_append_right t List.mem_cons_self)
      rw [Text.isDigit, Bool.and_eq_true, decide_eq_true_eq, decide_eq_true_eq] at hdigit
      exact hdigit.2
    have hlast : digitsValue [c] < 10 := by
      have hvalue : digitsValue [c] = 0 * 10 + (c.toNat - '0'.toNat) := rfl
      rw [hvalue]
      have : '9'.toNat = 57 ∧ '0'.toNat = 48 := ⟨rfl, rfl⟩
      omega
    have hfirst := ih (h.subset (List.subset_append_left t [c]))
    rw [digitsValue_append, List.length_append, List.length_singleton, pow_one, Nat.pow_succ]
    omega

/-- digits as an integer has them: they begin with no zero, or are one -/
structure Whole (t : Text) : Prop where
  digits : Digits t
  nonempty : t ≠ []
  canonical : t = ['0'] ∨ t.head? ≠ some '0'

theorem head?_ofNat {n : Nat} (h : 0 < n) : (Text.ofNat n).head? ≠ some '0' := by
  induction n using Nat.strongRecOn with
  | ind n ih =>
    unfold Text.ofNat
    rcases Nat.lt_or_ge n 10 with hlt | hge
    · rw [Nat.toDigits_of_lt_base hlt]
      simpa using Nat.pos_iff_ne_zero.mp h
    · rw [Nat.toDigits_of_base_le (by decide) hge, List.head?_append_of_ne_nil _ Nat.toDigits_ne_nil]
      exact ih (n / 10) (Nat.div_lt_self h (by decide)) (Nat.div_pos hge (by decide))

theorem whole_ofNat (n : Nat) : Whole (Text.ofNat n) where
  digits := digits_ofNat n
  nonempty := Nat.toDigits_ne_nil
  canonical := by
    rcases Nat.eq_zero_or_pos n with rfl | h
    · exact .inl rfl
    · exact .inr (head?_ofNat h)

/-! ## notation -/

/-- a number in decimal, with decimal places or with an exponent -/
structure Notation where
  whole : Text
  places : Text
  exponent : Option Int
  isWhole : Whole whole
  arePlaces : Digits places
  isMarked : places ≠ [] ∨ exponent.isSome

namespace Notation

/-- a point before the decimal places, if there are any -/
def pointText (places : Text) : Text := if places.isEmpty then [] else '.' :: places

/-- the exponent, if there is one -/
def exponentText? (exponent : Option Int) : Text := (exponent.map fun e => 'e' :: Binary64.exponentText e).getD []

/-- a number in decimal as a text -/
def text (x : Notation) : Text := x.whole ++ pointText x.places ++ exponentText? x.exponent

/-- all digits as one number -/
def digits (x : Notation) : Nat := digitsValue (x.whole ++ x.places)

/-- the exponent of ten of the last digit -/
def scale (x : Notation) : Int := x.exponent.getD 0 - x.places.length

/-- the value -/
def value (x : Notation) : ℚ := x.digits * 10 ^ x.scale

end Notation
end Decimal

/-! ## reading -/

namespace Json

open Decimal

/-- nothing follows that could belong to a number -/
def EndsNumber (rest : Text) : Prop := ∀ c ∈ rest.head?, Text.isNumeral c = false

theorem isNumeral_of_isDigit {c : Char} (h : Text.isDigit c = true) : Text.isNumeral c = true := by
  simp [Text.isNumeral, Key.isTail, h]

section
variable {rest : Text}

theorem endsNumber_cons {c : Char} (h : Text.isNumeral c = false) : EndsNumber (c :: rest) := by
  rintro _ ⟨⟩
  exact h

theorem EndsNumber.head?_ne (h : EndsNumber rest) {c : Char} (hc : Text.isNumeral c = true) : rest.head? ≠ some c :=
  fun e => Bool.false_ne_true ((h c e).symm.trans hc)

theorem EndsNumber.not_isDigit (h : EndsNumber rest) : ∀ c ∈ rest.head?, Text.isDigit c = false :=
  fun _ hc => Bool.eq_false_iff.mpr fun hd => h.head?_ne (isNumeral_of_isDigit hd) hc

theorem wholePart?_append {whole : Text} (h : Whole whole) (hrest : ∀ c ∈ rest.head?, Text.isDigit c = false) :
    wholePart? (whole ++ rest) = some (whole, rest) := by
  unfold wholePart?
  split
  · rename_i t e
    rcases h.canonical with rfl | hne
    · rw [← (List.cons.inj e).2]
      rfl
    · cases whole with
      | nil => exact absurd rfl h.nonempty
      | cons c whole => exact absurd (congrArg some (List.cons.inj e).1) hne
  · rw [spanDigits_append h.digits hrest]
    split
    · rename_i e
      exact absurd (Prod.mk.inj e).1 h.nonempty
    · rfl

theorem digits_of_wholePart? {t whole : Text} (h : wholePart? t = some (whole, rest)) : Digits whole := by
  unfold wholePart? at h
  split at h
  · cases h
    exact List.forall_mem_singleton.mpr rfl
  · split at h
    · cases h
    · cases h
      exact fun c hc => List.mem_takeWhile_imp hc

theorem fractionPart_none (h : rest.head? ≠ some '.') : fractionPart rest = ([], rest) := by
  unfold fractionPart
  split
  · exact absurd rfl h
  · rfl

theorem fractionPart_append {places : Text} (h : Digits places) (hdot : rest.head? ≠ some '.')
    (hrest : ∀ c ∈ rest.head?, Text.isDigit c = false) :
    fractionPart (Notation.pointText places ++ rest) = (places, rest) := by
  unfold Notation.pointText
  cases places with
  | nil => exact fractionPart_none hdot
  | cons c places =>
    have hspan : spanDigits (c :: (places ++ rest)) = (c :: places, rest) := spanDigits_append h hrest
    show fractionPart ('.' :: c :: (places ++ rest)) = _
    rw [fractionPart, hspan]

theorem exponentPart?_none (h : EndsNumber rest) : exponentPart? rest = none := by
  unfold exponentPart?
  split
  · rename_i c t
    refine if_neg ?_
    rintro (rfl | rfl)
    · exact h.head?_ne (by decide) rfl
    · exact h.head?_ne (by decide) rfl
  · rfl

theorem digits_exponent (n : Nat) : Digits (Text.zeroPadded 2 (Text.ofNat n)) :=
  (digits_replicate _).append (digits_ofNat n)

theorem signedDigits?_sign (negative : Bool) (t : Text) : signedDigits? ((if negative then '-' else '+') :: t)
    = match spanDigits t with
      | ([], _) => none
      | (digits, rest) => some (if negative then -(digitsValue digits : Int) else digitsValue digits, rest) := by
  cases negative <;> rfl

theorem signedDigits?_append {digits : Text} (hdigits : Digits digits) (hne : digits ≠ [])
    (h : ∀ c ∈ rest.head?, Text.isDigit c = false) (negative : Bool) :
    signedDigits? ((if negative then '-' else '+') :: (digits ++ rest))
      = some (if negative then -(digitsValue digits : Int) else digitsValue digits, rest) := by
  rw [signedDigits?_sign, spanDigits_append hdigits h]
  cases digits with
  | nil => exact absurd rfl hne
  | cons c digits => rfl

theorem signedDigits?_exponentText (h : EndsNumber rest) (e : Int) :
    signedDigits? (Binary64.exponentText e ++ rest) = some (e, rest) := by
  have hvalue : digitsValue (Text.zeroPadded 2 (Text.ofNat e.natAbs)) = e.natAbs := by
    rw [Text.zeroPadded, digitsValue_zeros, digitsValue_ofNat]
  have hread := signedDigits?_append (digits_exponent e.natAbs)
    (List.append_ne_nil_of_right_ne_nil _ Nat.toDigits_ne_nil) h.not_isDigit (decide (e < 0))
  simp only [decide_eq_true_eq, hvalue] at hread
  refine hread.trans ?_
  congr 2
  split <;> omega

theorem exponentPart?_append (h : EndsNumber rest) (exponent : Option Int) :
    exponentPart? (Notation.exponentText? exponent ++ rest) = exponent.map fun e => (e, rest) := by
  cases exponent with
  | none => exact exponentPart?_none h
  | some e =>
    show exponentPart? ('e' :: (Binary64.exponentText e ++ rest)) = _
    unfold exponentPart?
    dsimp only
    rw [if_pos (.inl rfl), signedDigits?_exponentText h]
    rfl

/-- a number in decimal is read as the floating-point number nearest to it -/
theorem readUnsigned_text (x : Notation) (h : EndsNumber rest) (place : Text) (negative : Bool) :
    readUnsigned place negative (x.text ++ rest)
      = .ok (.float (.ofDecimal negative x.digits x.scale), rest) := by
  -- neither a digit nor a point comes after the digits of a part
  have hafter : ∀ c ∈ (Notation.exponentText? x.exponent ++ rest).head?, c = 'e' ∨ c ∈ rest.head? := by
    intro c hc
    cases hx : x.exponent with
    | none => rw [hx] at hc; exact .inr hc
    | some e => rw [hx] at hc; exact .inl (Option.some.inj hc).symm
  have hexponent : ∀ c ∈ (Notation.exponentText? x.exponent ++ rest).head?, Text.isDigit c = false := by
    intro c hc
    rcases hafter c hc with rfl | hc
    · rfl
    · exact h.not_isDigit c hc
  have hdot : (Notation.exponentText? x.exponent ++ rest).head? ≠ some '.' := by
    intro e
    rcases hafter '.' e with e | hc
    · exact absurd e (by decide)
    · exact h.head?_ne (by decide) hc
  have hpoint : ∀ c ∈ (Notation.pointText x.places ++ (Notation.exponentText? x.exponent ++ rest)).head?,
      Text.isDigit c = false := by
    intro c hc
    unfold Notation.pointText at hc
    split at hc
    · exact hexponent c hc
    · rw [← Option.some.inj hc]
      rfl
  unfold readUnsigned
  rw [Notation.text, List.append_assoc, List.append_assoc, wholePart?_append x.isWhole hpoint]
  dsimp only
  rw [fractionPart_append x.arePlaces hdot hexponent]
  dsimp only
  rw [exponentPart?_append h]
  cases hx : x.exponent with
  | some e => simp only [Option.map_some, Notation.digits, Notation.scale, hx, Option.getD_some]
  | none =>
    have hplaces : x.places ≠ [] := x.isMarked.resolve_right (by simp [hx])
    have hempty : x.places.isEmpty = false := by simpa using hplaces
    simp only [Option.map_none, hempty, Notation.digits, Notation.scale, hx, Option.getD_none]
    rfl

end

/-! ## integers -/

section
variable {rest : Text}

theorem readUnsigned_ofNat {n : Nat} (hn : n < 10 ^ Limit.digits) (h : EndsNumber rest) (place : Text)
    (negative : Bool) : readUnsigned place negative (Text.ofNat n ++ rest)
      = .ok (.int (if negative then -(n : Int) else n), rest) := by
  have hlength : ¬ Limit.digits < (Text.ofNat n).length :=
    Nat.not_lt.mpr ((Nat.length_toDigits_le_iff (by decide) (by decide)).mpr hn)
  unfold readUnsigned
  rw [wholePart?_append (whole_ofNat n) h.not_isDigit]
  dsimp only
  rw [fractionPart_none (h.head?_ne (by decide))]
  dsimp only
  rw [exponentPart?_none h, integerOf, if_neg hlength, digitsValue_ofNat]
  rfl

/-- the first character of digits is a digit -/
theorem Whole.head?_isDigit {whole : Text} (h : Whole whole) {c : Char} (hc : (whole ++ rest).head? = some c) :
    Text.isDigit c = true := by
  rw [List.head?_append_of_ne_nil _ h.nonempty] at hc
  exact h.digits c (List.mem_of_mem_head? hc)

theorem readNumber_unsigned {t : Text} {c : Char} (hc : t.head? = some c) (hd : Text.isDigit c = true) :
    readNumber t = readUnsigned t false t := by
  unfold readNumber
  split
  · rw [← Option.some.inj hc] at hd
    cases hd
  · rfl

theorem readNumber_negative {t : Text} {c : Char} (hc : t.head? = some c) (hd : Text.isDigit c = true) :
    readNumber ('-' :: t) = readUnsigned ('-' :: t) true t := by
  have hafter : Text.after? "Infinity" t = none := by
    cases t with
    | nil => cases hc
    | cons d t =>
      rw [← Option.some.inj hc] at hd
      show (if 'I' = d then _ else _) = _
      refine if_neg ?_
      rintro rfl
      cases hd
  rw [readNumber, hafter]

/-- an integer is read back -/
theorem readNumber_ofInt {i : Int} (hi : i.natAbs < 10 ^ Limit.digits) (h : EndsNumber rest) :
    readNumber (Text.ofInt i ++ rest) = .ok (.int i, rest) := by
  have hhead (n : Nat) : ∃ c, (Text.ofNat n ++ rest).head? = some c ∧ Text.isDigit c = true := by
    obtain ⟨c, hc⟩ := Option.isSome_iff_exists.mp (List.isSome_head?.mpr
      (List.append_ne_nil_of_left_ne_nil (whole_ofNat n).nonempty rest))
    exact ⟨c, hc, Whole.head?_isDigit (whole_ofNat n) hc⟩
  cases i with
  | ofNat n =>
    obtain ⟨c, hc, hd⟩ := hhead n
    show readNumber (Text.ofNat n ++ rest) = _
    exact (readNumber_unsigned hc hd).trans (readUnsigned_ofNat (n := n) hi h _ false)
  | negSucc n =>
    obtain ⟨c, hc, hd⟩ := hhead (n + 1)
    show readNumber ('-' :: (Text.ofNat (n + 1) ++ rest)) = _
    exact (readNumber_negative hc hd).trans (readUnsigned_ofNat (n := n + 1) hi h _ true)

end

/-! ## digits with a point -/

/-- digits that begin with no zero -/
structure Leading (t : Text) : Prop where
  digits : Digits t
  nonempty : t ≠ []
  nonzero : t.head? ≠ some '0'

theorem whole_zero : Whole ['0'] := ⟨fun c hc => by rw [List.mem_singleton.mp hc]; rfl, by decide, .inl rfl⟩

section
variable {digits : Text} {p : Int}

/-- the first digits, with some more -/
theorem Leading.whole (h : Leading digits) {n : Nat} (hn : 0 < n) {t : Text} (ht : Digits t) :
    Whole (digits.take n ++ t) := by
  have hne : digits.take n ≠ [] := by
    rw [Ne, List.take_eq_nil_iff, not_or]
    exact ⟨Nat.pos_iff_ne_zero.mp hn, h.nonempty⟩
  refine ⟨(h.digits.subset (List.take_subset _ _)).append ht, List.append_ne_nil_of_left_ne_nil hne _, .inr ?_⟩
  rw [List.head?_append_of_ne_nil _ hne, List.head?_take, if_neg (Nat.pos_iff_ne_zero.mp hn)]
  exact h.nonzero

/-- how digits are written with the point after the first `p` of them: with the value that they stand for, and with
no decimal places beyond the last digit but one -/
structure IsPointed (digits : Text) (p : Int) (x : Notation) : Prop where
  text : Binary64.pointedText digits p = x.text
  value : x.value = digitsValue digits * 10 ^ (p - digits.length)
  scale : min (p - digits.length) (-1) ≤ x.scale

theorem IsPointed.of_digits {x : Notation} (htext : Binary64.pointedText digits p = x.text)
    (hdigits : x.digits = digitsValue digits) (hscale : x.scale = p - digits.length) : IsPointed digits p x where
  text := htext
  value := by rw [Notation.value, hdigits, hscale]
  scale := hscale ▸ min_le_left _ _

theorem exists_isPointed_small (h : Leading digits) (hp : -4 < p ∧ p ≤ 0) : ∃ x, IsPointed digits p x := by
  have hplaces : Digits (List.replicate (-p).toNat '0' ++ digits) := (digits_replicate _).append h.digits
  have hne : List.replicate (-p).toNat '0' ++ digits ≠ [] := List.append_ne_nil_of_right_ne_nil _ h.nonempty
  refine ⟨⟨['0'], List.replicate (-p).toNat '0' ++ digits, none, whole_zero, hplaces, .inl hne⟩,
    .of_digits ?_ ?_ ?_⟩
  · have hempty : (List.replicate (-p).toNat '0' ++ digits).isEmpty = false := by simpa using hne
    rw [Binary64.pointedText, if_pos hp, Notation.text, Notation.pointText, hempty]
    simp [Notation.exponentText?]
  · exact (digitsValue_zeros 1 _).trans (digitsValue_zeros _ _)
  · rw [Notation.scale, List.length_append, List.length_replicate, Option.getD_none]
    omega

theorem exists_isPointed_inside (h : Leading digits) (hp : 0 < p ∧ p ≤ 16) : ∃ x, IsPointed digits p x := by
  have htext : Binary64.pointedText digits p = digits.take p.toNat ++ List.replicate (p.toNat - digits.length) '0'
      ++ ['.'] ++ (if (digits.drop p.toNat).isEmpty then ['0'] else digits.drop p.toNat) := by
    rw [Binary64.pointedText, if_neg (by omega), if_pos hp]
  have hwhole := h.whole (n := p.toNat) (by omega) (digits_replicate (p.toNat - digits.length))
  by_cases hlt : p.toNat < digits.length
  -- the point stands among the digits
  · have hempty : (digits.drop p.toNat).isEmpty = false := by simpa using hlt
    have hne : digits.drop p.toNat ≠ [] := by simpa using hlt
    have hzeros : List.replicate (p.toNat - digits.length) '0' = [] := by
      rw [Nat.sub_eq_zero_of_le hlt.le]
      rfl
    refine ⟨⟨_, digits.drop p.toNat, none, hwhole, h.digits.subset (List.drop_subset _ _), .inl hne⟩,
      .of_digits ?_ ?_ ?_⟩
    · rw [htext, Notation.text, Notation.pointText, hempty]
      simp [Notation.exponentText?]
    · show digitsValue (digits.take p.toNat ++ List.replicate (p.toNat - digits.length) '0'
        ++ digits.drop p.toNat) = _
      rw [hzeros, List.append_nil, List.take_append_drop]
    · rw [Notation.scale, List.length_drop, Option.getD_none]
      omega
  -- zeros stand between the digits and the point
  · have hempty : (digits.drop p.toNat).isEmpty = true := by simpa using hlt
    have htake : digits.take p.toNat = digits := List.take_of_length_le (Nat.le_of_not_lt hlt)
    refine ⟨⟨_, ['0'], none, hwhole, whole_zero.digits, .inl (by decide)⟩, ?_, ?_, ?_⟩
    · rw [htext, Notation.text, Notation.pointText, hempty]
      simp [Notation.exponentText?]
    · have hdigits : digitsValue (digits.take p.toNat ++ List.replicate (p.toNat - digits.length) '0' ++ ['0'])
          = digitsValue digits * 10 ^ (p.toNat - digits.length + 1) := by
        have hzeros := digitsValue_replicate (p.toNat - digits.length + 1)
        rw [htake, List.append_assoc, ← List.replicate_succ', digitsValue_append, hzeros, List.length_replicate,
          Nat.add_zero]
      have hexponent : p - digits.length = ((p.toNat - digits.length + 1 : Nat) : Int) + -1 := by omega
      show ((digitsValue (digits.take p.toNat ++ List.replicate (p.toNat - digits.length) '0' ++ ['0']) : Nat) : ℚ)
        * 10 ^ (-1 : Int) = _
      rw [hdigits, hexponent, zpow_add₀ (by norm_num), zpow_natCast, Nat.cast_mul, Nat.cast_pow, mul_assoc]
      rfl
    · exact min_le_right _ _

theorem exists_isPointed_scaled (h : Leading digits) (hp : ¬ (-4 < p ∧ p ≤ 0)) (hp' : ¬ (0 < p ∧ p ≤ 16)) :
    ∃ x, IsPointed digits p x := by
  have hwhole := h.whole (n := 1) Nat.one_pos (t := []) fun _ hc => absurd hc List.not_mem_nil
  have hlength : 0 < digits.length := List.length_pos_iff.mpr h.nonempty
  refine ⟨⟨_, digits.drop 1, some (p - 1), hwhole, h.digits.subset (List.drop_subset _ _), .inr rfl⟩,
    .of_digits ?_ ?_ ?_⟩
  · rw [Binary64.pointedText, if_neg hp, if_neg hp', Notation.text, Notation.pointText]
    simp [Notation.exponentText?]
  · show digitsValue (digits.take 1 ++ [] ++ digits.drop 1) = _
    rw [List.append_nil, List.take_append_drop]
  · rw [Notation.scale, List.length_drop, Option.getD_some]
    omega

theorem exists_isPointed (h : Leading digits) (p : Int) : ∃ x, IsPointed digits p x := by
  by_cases hsmall : -4 < p ∧ p ≤ 0
  · exact exists_isPointed_small h hsmall
  · by_cases hinside : 0 < p ∧ p ≤ 16
    · exact exists_isPointed_inside h hinside
    · exact exists_isPointed_scaled h hsmall hinside

/-- digits are those that are not zeros at the end, and such zeros -/
theorem exists_zeros (t : Text) : ∃ n, t = Binary64.withoutZeros t ++ List.replicate n '0' := by
  refine ⟨(t.reverse.takeWhile (· == '0')).length, ?_⟩
  have hzeros : t.reverse.takeWhile (· == '0') = List.replicate (t.reverse.takeWhile (· == '0')).length '0' :=
    List.eq_replicate_of_mem fun c hc => by simpa using List.all_eq_true.mp List.all_takeWhile c hc
  have hsplit := congrArg List.reverse (List.takeWhile_append_dropWhile (p := (· == '0')) (l := t.reverse))
  rw [List.reverse_append, List.reverse_reverse, hzeros, List.reverse_replicate] at hsplit
  exact hsplit.symm

theorem leading_withoutZeros {n : Nat} (hn : 0 < n) : Leading (Binary64.withoutZeros (Text.ofNat n)) := by
  obtain ⟨k, hk⟩ := exists_zeros (Text.ofNat n)
  have hne : Binary64.withoutZeros (Text.ofNat n) ≠ [] := by
    intro e
    have hvalue := congrArg digitsValue hk
    rw [e, List.nil_append, digitsValue_replicate, digitsValue_ofNat] at hvalue
    omega
  refine ⟨fun c hc => digits_ofNat n c (hk ▸ List.mem_append_left _ hc), hne, ?_⟩
  have hhead := head?_ofNat hn
  rw [hk, List.head?_append_of_ne_nil _ hne] at hhead
  exact hhead

end

/-! ## floating-point numbers -/

open Binary64 in
/-- a positive number is written in a notation of a decimal near it -/
theorem exists_notation {m : Nat} {e : Int} (h : IsNormal m e) (hm : 0 < m) (negative : Bool) : ∃ x : Notation,
    (finite negative m e).text = (if negative then ['-'] else []) ++ x.text
      ∧ ofDecimal negative x.digits x.scale = finite negative m e := by
  obtain ⟨hpos, hexponent, hnears⟩ := shortest_spec h hm
  have htext : (finite negative m e).text = (if negative then ['-'] else [])
      ++ pointedText (withoutZeros (Text.ofNat (shortest m e).1))
        ((Text.ofNat (shortest m e).1).length + (shortest m e).2) := by
    unfold Binary64.text
    dsimp only
    rw [if_neg (Nat.pos_iff_ne_zero.mp hm)]
  generalize (shortest m e).1 = digits at hpos hnears htext
  generalize (shortest m e).2 = exponent at hexponent hnears htext
  obtain ⟨x, hx⟩ := exists_isPointed (leading_withoutZeros hpos) ((Text.ofNat digits).length + exponent)
  obtain ⟨k, hk⟩ := exists_zeros (Text.ofNat digits)
  -- the zeros that are not written make up for the exponent
  have hlength := congrArg List.length hk
  rw [List.length_append, List.length_replicate] at hlength
  have hvalue : (digits : ℚ) = digitsValue (withoutZeros (Text.ofNat digits)) * 10 ^ k := by
    have := congrArg digitsValue hk
    rw [digitsValue_append, digitsValue_replicate, List.length_replicate, digitsValue_ofNat, Nat.add_zero] at this
    exact_mod_cast this
  have hscale : ((Text.ofNat digits).length + exponent - (withoutZeros (Text.ofNat digits)).length : Int)
      = k + exponent := by omega
  have hsame : x.value = digits * 10 ^ exponent := by
    rw [hx.value, hscale, hvalue, zpow_add₀ (by norm_num), zpow_natCast, mul_assoc]
  have hleast := hx.scale
  rw [hscale] at hleast
  refine ⟨x, htext.trans (congrArg _ hx.text), ofDecimal_eq negative h hm (by omega) ?_⟩
  rw [← Notation.value, hsame]
  exact hnears

/-- an unsigned number, with a minus sign or without one -/
theorem readNumber_notation (x : Notation) {rest : Text} (hrest : EndsNumber rest) (negative : Bool) :
    readNumber ((if negative then ['-'] else []) ++ x.text ++ rest)
      = .ok (.float (.ofDecimal negative x.digits x.scale), rest) := by
  have happend : x.text ++ rest
      = x.whole ++ (Notation.pointText x.places ++ Notation.exponentText? x.exponent ++ rest) := by
    rw [Notation.text, List.append_assoc, List.append_assoc, List.append_assoc]
  obtain ⟨c, hc⟩ := Option.isSome_iff_exists.mp (List.isSome_head?.mpr
    (List.append_ne_nil_of_left_ne_nil x.isWhole.nonempty
      (Notation.pointText x.places ++ Notation.exponentText? x.exponent ++ rest)))
  have hd := Whole.head?_isDigit x.isWhole hc
  rw [← happend] at hc
  cases negative with
  | false => exact (readNumber_unsigned hc hd).trans (readUnsigned_text x hrest _ false)
  | true => exact (readNumber_negative hc hd).trans (readUnsigned_text x hrest _ true)

/-- the notation of zero -/
def zeroNotation : Notation := ⟨['0'], ['0'], none, whole_zero, whole_zero.digits, .inl (by decide)⟩

/-- a finite number is read back -/
theorem readNumber_float {negative : Bool} {m : Nat} {e : Int} (h : Binary64.IsNormal m e) {rest : Text}
    (hrest : EndsNumber rest) :
    readNumber (floatText (.finite negative m e) ++ rest) = .ok (.float (.finite negative m e), rest) := by
  obtain ⟨x, htext, hvalue⟩ : ∃ x : Notation,
      (Binary64.finite negative m e).text = (if negative then ['-'] else []) ++ x.text
        ∧ Binary64.ofDecimal negative x.digits x.scale = .finite negative m e := by
    rcases Nat.eq_zero_or_pos m with rfl | hm
    -- zero has the least exponent
    · obtain rfl := h.large.resolve_left (by decide)
      exact ⟨zeroNotation, rfl, rfl⟩
    · exact exists_notation h hm negative
  have hfloat : floatText (.finite negative m e) = (Binary64.finite negative m e).text := rfl
  rw [hfloat, htext, readNumber_notation x hrest, hvalue]

end Json
end DatabaseTypes
