import DatabaseTypes.Calendar
import DatabaseTypes.Proofs.Json.Number
import DatabaseTypes.Proofs.Rounding.Order
import Mathlib.Data.Rat.Floor

/-!
# Durations as they are shown

A duration below a minute is shown in tenths of a second, the nearest number of them, and a longer one in minutes and
whole seconds, of which none is rounded up.  So the order is kept.  The nearest number of tenths can be that of a whole
minute, which is then shown as sixty seconds.

* `Duration.seconds`       how long a duration is
* `Duration.Display`       what is shown of it, with `Display.text` and `Display.ofText?`
* `Duration.Shows`         when something is shown
* `Duration.minutes_eq`, `Duration.one_le_minutes`   the minutes, which are rounded twice
* `Duration.exists_shows`  something is shown of every finite duration that is not negative
* `Duration.text_isCanonical_iff`   which texts have a minute in seconds
* `Duration.text_monotone`          the order is kept, and how near the text is
-/

namespace DatabaseTypes.Duration

open Binary64 Decimal

/-! ## durations -/

/-- how long a duration is -/
def seconds : Duration → ℚ
  | .whole n => n
  | .real x => (if x.isNegative then -1 else 1) * ratio x.magnitude

/-- a whole number of seconds, or a finite floating-point number of them -/
inductive IsFinite : Duration → Prop
  | whole (n : Int) : IsFinite (.whole n)
  | real (negative : Bool) {m : Nat} {e : Int} (h : IsNormal m e) : IsFinite (.real (.finite negative m e))

theorem seconds_real (negative : Bool) (m : Nat) (e : Int) : (Duration.real (.finite negative m e)).seconds
    = (if negative then -1 else 1) * ratio (scaledByTwo m 1 e) := rfl

/-- no floating-point number of seconds that is so large that not every natural number near it is one -/
def IsSmall (d : Duration) : Prop := ∀ x, d = .real x → d.seconds < 2 ^ 53

/-- a number that is not below zero is not negative, or it is a negative zero -/
theorem nonneg_cases {negative : Bool} {m : Nat} {e : Int} (h : IsNormal m e)
    (hpos : 0 ≤ (Duration.real (.finite negative m e)).seconds) :
    negative = false ∨ Binary64.finite negative m e = zero true := by
  cases negative with
  | false => exact .inl rfl
  | true =>
    rw [seconds_real, if_pos rfl, ratio_magnitude] at hpos
    have htwo : (0 : ℚ) < 2 ^ e := by positivity
    have hm : (m : ℚ) ≤ 0 := by
      by_contra hlt
      linarith [mul_pos (not_le.mp hlt) htwo]
    obtain rfl : m = 0 := Nat.le_zero.mp (by exact_mod_cast hm)
    obtain rfl := h.large.resolve_left (by decide)
    exact .inr rfl

/-! ## displays -/

/-- what is shown of a duration -/
inductive Display where
  | tenths (negative : Bool) (full tenth : Nat)
  | minutes (m s : Nat)
  deriving DecidableEq

namespace Display

/-- the text of a display -/
def text : Display → Text
  | .tenths negative full tenth =>
    (if negative then ['-'] else []) ++ Text.ofNat full ++ ['.'] ++ Text.ofNat tenth ++ ['s']
  | .minutes m s => Text.ofNat m ++ "m " ++ Text.ofNat s ++ "s"

/-- the display of a text -/
def ofText? (t : Text) : Option Display :=
  match spanDigits (sign t).2 with
  | (full, '.' :: rest) => match spanDigits rest with
    | ([tenth], ['s']) => some (.tenths (sign t).1 (digitsValue full) (digitsValue [tenth]))
    | _ => none
  | (first, 'm' :: ' ' :: rest) => match spanDigits rest with
    | (second, ['s']) => some (.minutes (digitsValue first) (digitsValue second))
    | _ => none
  | _ => none

/-- the seconds that are shown -/
def value : Display → ℚ
  | .tenths negative full tenth => (if negative then -1 else 1) * (full + tenth / 10)
  | .minutes m s => 60 * m + s

/-- seconds below a minute, or at least one minute and seconds below another one -/
def IsCanonical : Display → Prop
  | .tenths negative full tenth => negative = false ∧ full < 60 ∧ tenth < 10
  | .minutes m s => 1 ≤ m ∧ s < 60

instance (x : Display) : Decidable x.IsCanonical := by
  cases x <;> unfold IsCanonical <;> infer_instance

/-- a display with one digit after the point -/
def HasDigit : Display → Prop
  | .tenths _ _ tenth => tenth < 10
  | .minutes _ _ => True

theorem sign_ofNat (n : Nat) (rest : Text) : sign (Text.ofNat n ++ rest) = (false, Text.ofNat n ++ rest) := by
  obtain ⟨c, t, e⟩ := List.exists_cons_of_ne_nil (whole_ofNat n).nonempty
  have hc : Text.isDigit c = true := digits_ofNat n c (e ▸ List.mem_cons_self)
  rw [e, List.cons_append]
  unfold sign
  split
  · rename_i h
    rw [(List.cons.inj h).1] at hc
    cases hc
  · rename_i h
    rw [(List.cons.inj h).1] at hc
    cases hc
  · rfl

theorem spanDigits_ofNat (n : Nat) {c : Char} (hc : Text.isDigit c = false) (rest : Text) :
    spanDigits (Text.ofNat n ++ c :: rest) = (Text.ofNat n, c :: rest) := by
  refine spanDigits_append (digits_ofNat n) fun d hd => ?_
  rw [← Option.some.inj hd]
  exact hc

/-- a display is read from its text -/
theorem ofText?_text {x : Display} (h : x.HasDigit) : ofText? x.text = some x := by
  cases x with
  | minutes m s =>
    have htext : text (.minutes m s) = Text.ofNat m ++ 'm' :: ' ' :: (Text.ofNat s ++ ['s']) := by
      simp [text]
    have hs : spanDigits (Text.ofNat s ++ ['s']) = (Text.ofNat s, ['s']) := spanDigits_ofNat s rfl []
    rw [htext, ofText?, sign_ofNat, spanDigits_ofNat m rfl]
    simp [hs, digitsValue_ofNat]
  | tenths negative full tenth =>
    have htext : text (.tenths negative full tenth)
        = (if negative then ['-'] else []) ++ (Text.ofNat full ++ '.' :: (Text.ofNat tenth ++ ['s'])) := by
      simp [text]
    have hsign : sign ((if negative then ['-'] else []) ++ (Text.ofNat full ++ '.' :: (Text.ofNat tenth ++ ['s'])))
        = (negative, Text.ofNat full ++ '.' :: (Text.ofNat tenth ++ ['s'])) := by
      cases negative with
      | false => exact sign_ofNat full _
      | true => rfl
    have htenth : Text.ofNat tenth = [Nat.digitChar tenth] := Nat.toDigits_of_lt_base h
    have hrest : spanDigits (Text.ofNat tenth ++ ['s']) = ([Nat.digitChar tenth], ['s']) :=
      htenth ▸ spanDigits_ofNat tenth rfl []
    have hvalue : digitsValue [Nat.digitChar tenth] = tenth := htenth ▸ digitsValue_ofNat tenth
    rw [htext, ofText?, hsign, spanDigits_ofNat full rfl]
    simp [hrest, hvalue, digitsValue_ofNat]

end Display

/-! ## what is shown -/

/-- the nearest number of tenths of a second, an even one if the duration lies in the middle between two -/
def NearTenths (d : Duration) (n : Nat) : Prop :=
  Between (n % 2 = 0) (n - 1 / 2) (10 * d.seconds) (n + 1 / 2)

/-- what is shown of a duration -/
inductive Shows (d : Duration) : Display → Prop
  /-- below a minute the nearest number of tenths -/
  | tenths (negative : Bool) {n : Nat} (hless : d.seconds < 60) (hnear : d.NearTenths n)
    (hnegative : negative = true ↔ d = .real (zero true)) : Shows d (.tenths negative (n / 10) (n % 10))
  /-- from there on minutes and seconds, which make up the whole seconds of a duration that is small -/
  | minutes {m s : Nat} (hmore : 60 ≤ d.seconds) (hm : 1 ≤ m) (hs : s < 60)
    (hwhole : d.IsSmall → 60 * (m : Int) + s = ⌊d.seconds⌋) : Shows d (.minutes m s)

theorem text_whole (n : Nat) : (Text.ofNat n ++ ".0s" : Text) = (Display.tenths false n 0).text := by
  simp [Display.text, Text.ofNat]

/-- the last digit of a number, and those before it -/
theorem zeroPadded_ofNat (n : Nat) : Text.zeroPadded 2 (Text.ofNat n) = Text.ofNat (n / 10) ++ Text.ofNat (n % 10) := by
  have hlast : Text.ofNat (n % 10) = [Nat.digitChar (n % 10)] :=
    Nat.toDigits_of_lt_base (Nat.mod_lt n (by decide))
  rcases Nat.lt_or_ge n 10 with hlt | hge
  · have hone : Text.ofNat n = [Nat.digitChar n] := Nat.toDigits_of_lt_base hlt
    rw [hlast, Nat.mod_eq_of_lt hlt, Nat.div_eq_of_lt hlt, hone]
    rfl
  · have hmany : Text.ofNat n = Text.ofNat (n / 10) ++ [Nat.digitChar (n % 10)] :=
      Nat.toDigits_of_base_le (by decide) hge
    have hne : Text.ofNat (n / 10) ≠ [] := (whole_ofNat (n / 10)).nonempty
    have hlength : 2 - (Text.ofNat n).length = 0 := by
      rw [hmany, List.length_append, List.length_singleton]
      have := List.length_pos_of_ne_nil hne
      omega
    rw [Text.zeroPadded, hlength, hmany, hlast]
    rfl

theorem text_fixed (negative : Bool) (m : Nat) (e : Int) : (Binary64.finite negative m e).fixedText 1 ++ ['s']
    = (Display.tenths negative (roundedQuotient ((scaledByTwo m 1 e).1 * 10) (scaledByTwo m 1 e).2 / 10)
      (roundedQuotient ((scaledByTwo m 1 e).1 * 10) (scaledByTwo m 1 e).2 % 10)).text := by
  unfold fixedText
  simp only [Nat.pow_eq, pow_one, Nat.reduceAdd, zeroPadded_ofNat]
  generalize roundedQuotient ((scaledByTwo m 1 e).1 * 10) (scaledByTwo m 1 e).2 = n
  have hlast : (Text.ofNat (n % 10)).length = 1 := by
    rw [Text.ofNat, Nat.toDigits_of_lt_base (Nat.mod_lt n (by decide)), List.length_singleton]
  rw [List.length_append, hlast, Nat.add_sub_cancel, List.take_left', List.drop_left', Display.text]
  · simp
  · rfl
  · rfl

/-! ## minutes -/

section
variable {num den : Nat}

theorem mod_div_lt (num : Nat) (hden : 0 < den) : num % (60 * den) / den < 60 :=
  (Nat.div_lt_iff_lt_mul hden).mpr (Nat.mod_lt num (Nat.mul_pos (by decide) hden))

/-- minutes and seconds make up the whole seconds -/
theorem sixty_mul_add (num den : Nat) : 60 * (num / (60 * den)) + num % (60 * den) / den = num / den := by
  rcases Nat.eq_zero_or_pos den with rfl | hden
  · simp
  have hdiv := Nat.div_add_mod num (60 * den)
  have hsplit : num = num % (60 * den) + den * (60 * (num / (60 * den))) := by
    rw [← Nat.mul_assoc, Nat.mul_comm den 60]
    omega
  conv_rhs => rw [hsplit, Nat.add_mul_div_left _ _ hden]
  exact Nat.add_comm _ _

/-- what is left of a quotient without the seconds beyond its last minute -/
theorem ratio_sub_mod (num : Nat) (hden : 0 < den) :
    ratio (num - num % (60 * den), den) = (60 * (num / (60 * den)) : Nat) := by
  have hdiv := Nat.div_add_mod num (60 * den)
  have hd : (den : ℚ) ≠ 0 := by exact_mod_cast hden.ne'
  have hsub : num - num % (60 * den) = 60 * den * (num / (60 * den)) := by omega
  rw [ratio, hsub, div_eq_iff hd]
  push_cast
  ring

/-- the minutes by the two numbers that are rounded on the way to them -/
theorem minutes_of_rounded {m m' : Nat} {e e' : Int}
    (hfirst : ofQuotient false (num - num % (60 * den)) den = .finite false m e)
    (hsecond : ofQuotient false (scaledByTwo m 1 e).1 (60 * (scaledByTwo m 1 e).2) = .finite false m' e') :
    minutes num den = if (scaledByTwo m' 1 e').2 < 2 * ((scaledByTwo m' 1 e').1 % (scaledByTwo m' 1 e').2)
      then (scaledByTwo m' 1 e').1 / (scaledByTwo m' 1 e').2 + 1
      else (scaledByTwo m' 1 e').1 / (scaledByTwo m' 1 e').2 := by
  simp only [minutes, hfirst, magnitude, hsecond]

/-- a sixtieth of a number -/
theorem ratio_sixtieth (m : Nat) (e : Int) :
    ratio ((scaledByTwo m 1 e).1, 60 * (scaledByTwo m 1 e).2) = m * 2 ^ e / 60 := by
  have hscaled := ratio_magnitude m e
  rw [ratio] at hscaled
  rw [← hscaled, ratio]
  push_cast
  rw [mul_comm (60 : ℚ), ← div_div]

/-- the minutes are exact below `2 ^ 53` seconds -/
theorem minutes_eq (hden : 0 < den) (hsmall : ratio (num, den) < 2 ^ 53) : minutes num den = num / (60 * den) := by
  have hd : (0 : ℚ) < den := by exact_mod_cast hden
  have hle : 60 * (num / (60 * den)) ≤ num / den := by
    rw [← sixty_mul_add num den]
    exact Nat.le_add_right _ _
  have hlt : num / den < 2 ^ 53 := by
    refine (Nat.div_lt_iff_lt_mul hden).mpr ?_
    exact_mod_cast (div_lt_iff₀ hd).mp hsmall
  obtain ⟨m, e, hfirst, hvalue⟩ :=
    ofQuotient_natCast false (hle.trans_lt hlt) hden (ratio_sub_mod num hden)
  have hratio : ratio ((scaledByTwo m 1 e).1, 60 * (scaledByTwo m 1 e).2) = (num / (60 * den) : Nat) := by
    rw [ratio_sixtieth, hvalue]
    push_cast
    ring
  have hpos := Nat.mul_pos (show 0 < 60 by decide) (scaledByTwo_pos m one_pos e)
  obtain ⟨m', e', hsecond, hvalue'⟩ := ofQuotient_natCast false (by omega) hpos hratio
  -- the quotient is whole, and nothing is left to be rounded
  have hpos' := scaledByTwo_pos m' one_pos e'
  have hwhole : (scaledByTwo m' 1 e').1 = num / (60 * den) * (scaledByTwo m' 1 e').2 := by
    have hscaled := ratio_magnitude m' e'
    rw [hvalue', ratio, div_eq_iff (by exact_mod_cast hpos'.ne')] at hscaled
    exact_mod_cast hscaled
  rw [minutes_of_rounded hfirst hsecond, hwhole, Nat.mul_mod_left, Nat.mul_div_cancel _ hpos', if_neg (by omega)]

/-- from a minute on there is at least one minute -/
theorem one_le_minutes {m : Nat} {e : Int} (h : IsNormal m e) (hden : 0 < den) (hvalue : ratio (num, den) = m * 2 ^ e)
    (hmore : 60 * den ≤ num) : 1 ≤ minutes num den := by
  have hd : (0 : ℚ) < den := by exact_mod_cast hden
  have hcount : 1 ≤ num / (60 * den) := (Nat.one_le_div_iff (by omega)).mpr hmore
  -- first the seconds of the minutes, which are no more than all seconds and no fewer than sixty
  have hle : ratio (num - num % (60 * den), den) ≤ m * 2 ^ e := by
    rw [← hvalue, ratio, ratio, div_le_div_iff_of_pos_right hd, Nat.cast_le]
    exact Nat.sub_le _ _
  have hge : ((60 : Nat) : ℚ) ≤ ratio (num - num % (60 * den), den) := by
    rw [ratio_sub_mod num hden, Nat.cast_le]
    omega
  obtain ⟨m₁, e₁, hfirst, hle₁⟩ := ofQuotient_le false h hden hle
  have hge₁ := natCast_le_ofQuotient (by decide) hden hge hfirst
  push_cast at hge₁
  -- then a sixtieth of them, which is no less than one
  have hpos₁ := Nat.mul_pos (show 0 < 60 by decide) (scaledByTwo_pos m₁ one_pos e₁)
  have hone : ((1 : Nat) : ℚ) ≤ ratio ((scaledByTwo m₁ 1 e₁).1, 60 * (scaledByTwo m₁ 1 e₁).2) := by
    rw [ratio_sixtieth, Nat.cast_one]
    linarith
  have hless : ratio ((scaledByTwo m₁ 1 e₁).1, 60 * (scaledByTwo m₁ 1 e₁).2) ≤ m * 2 ^ e := by
    rw [ratio_sixtieth]
    linarith
  obtain ⟨m₂, e₂, hsecond, -⟩ := ofQuotient_le false h hpos₁ hless
  have hge₂ := natCast_le_ofQuotient (by decide) hpos₁ hone hsecond
  have hpos₂ := scaledByTwo_pos m₂ one_pos e₂
  have hquotient : 1 ≤ (scaledByTwo m₂ 1 e₂).1 / (scaledByTwo m₂ 1 e₂).2 := by
    refine (Nat.one_le_div_iff hpos₂).mpr ?_
    rw [← ratio_magnitude, ratio, Nat.cast_one, one_le_div (by exact_mod_cast hpos₂)] at hge₂
    exact_mod_cast hge₂
  rw [minutes_of_rounded hfirst hsecond]
  split
  · exact Nat.le_add_left 1 _
  · exact hquotient

end

/-! ## what is shown of a duration -/

/-- the seconds of a number that is not below zero -/
theorem seconds_of_nonneg {negative : Bool} {m : Nat} {e : Int} (h : IsNormal m e)
    (hpos : 0 ≤ (Duration.real (.finite negative m e)).seconds) :
    (Duration.real (.finite negative m e)).seconds = ratio (scaledByTwo m 1 e)
    ∧ (Binary64.finite negative m e).isBelowZero = false
    ∧ (negative = true ↔ Duration.real (.finite negative m e) = .real (zero true)) := by
  rcases nonneg_cases h hpos with rfl | hzero
  · exact ⟨by rw [seconds_real, if_neg (by decide), one_mul], rfl, by simp [zero]⟩
  · obtain ⟨rfl, rfl, rfl⟩ := Binary64.finite.inj hzero
    refine ⟨?_, rfl, by simp [zero]⟩
    have hratio : ratio (scaledByTwo 0 1 leastExponent) = 0 := by
      rw [ratio_magnitude, Nat.cast_zero, zero_mul]
    rw [seconds_real, hratio, mul_zero]

/-- a floating-point number is shown in tenths, or in minutes and seconds -/
theorem text_real {negative : Bool} {m : Nat} {e : Int} (h : (Binary64.finite negative m e).isBelowZero = false) :
    text? (.real (.finite negative m e)) = if (scaledByTwo m 1 e).1 < 60 * (scaledByTwo m 1 e).2
      then .ok ((Binary64.finite negative m e).fixedText 1 ++ ['s'])
      else .ok (minutesText (minutes (scaledByTwo m 1 e).1 (scaledByTwo m 1 e).2)
        ((scaledByTwo m 1 e).1 % (60 * (scaledByTwo m 1 e).2) / (scaledByTwo m 1 e).2)) := by
  rw [text?, h]
  rfl

/-- something is shown of a whole number of seconds -/
theorem exists_shows_whole (n : Nat) :
    ∃ x : Display, (Duration.whole n).text? = .ok x.text ∧ x.HasDigit ∧ Shows (.whole n) x := by
  rcases Nat.lt_or_ge n 60 with hless | hmore
  · refine ⟨.tenths false n 0, ?_, Nat.succ_pos 9, ?_⟩
    · rw [← text_whole, text?, if_neg (by omega), if_pos (by omega)]
      rfl
    · have htenths : Display.tenths false n 0 = .tenths false (10 * n / 10) (10 * n % 10) := by
        rw [Nat.mul_div_cancel_left n (by decide), Nat.mul_mod_right]
      have hseconds : 10 * (Duration.whole n).seconds = (10 * n : Nat) := by
        simp [seconds]
      rw [htenths]
      refine .tenths false ?_ ?_ (by simp)
      · have : (n : ℚ) < 60 := by exact_mod_cast hless
        exact this
      · rw [NearTenths, hseconds]
        exact between_natCast (10 * n)
  · refine ⟨.minutes (n / 60) (n % 60), ?_, trivial, .minutes ?_ ?_ ?_ fun _ => ?_⟩
    · rw [text?, if_neg (by omega), if_neg (by omega)]
      rfl
    · have : (60 : ℚ) ≤ n := by exact_mod_cast hmore
      exact this
    · exact (Nat.one_le_div_iff (by decide)).mpr hmore
    · exact Nat.mod_lt n (by decide)
    · have hfloor : ⌊(Duration.whole n).seconds⌋ = (n : Int) := Int.floor_intCast _
      rw [hfloor]
      omega

/-- something is shown of a floating-point number of seconds -/
theorem exists_shows_real {negative : Bool} {m : Nat} {e : Int} (h : IsNormal m e)
    (hpos : 0 ≤ (Duration.real (.finite negative m e)).seconds) :
    ∃ x : Display, (Duration.real (.finite negative m e)).text? = .ok x.text ∧ x.HasDigit
      ∧ Shows (.real (.finite negative m e)) x := by
  obtain ⟨hseconds, hbelow, hnegative⟩ := seconds_of_nonneg h hpos
  obtain ⟨num, den, hpair⟩ : ∃ num den, scaledByTwo m 1 e = (num, den) := ⟨_, _, rfl⟩
  have htext := text_real hbelow
  have hfixed := text_fixed negative m e
  have hden := scaledByTwo_pos m one_pos e
  have hvalue := ratio_magnitude m e
  rw [hpair] at htext hfixed hden hvalue hseconds
  have hd : (0 : ℚ) < den := by exact_mod_cast hden
  have hminute : num < 60 * den ↔ ratio (num, den) < 60 := by
    rw [ratio, div_lt_iff₀ hd]
    exact_mod_cast Iff.rfl
  rw [htext]
  by_cases hless : ratio (num, den) < 60
  · have hnear := between_roundedQuotient (num * 10) hden
    have htenfold : ratio (num * 10, den) = 10 * ratio (num, den) := by
      rw [ratio, ratio, Nat.cast_mul, mul_comm, mul_div_assoc]
      rfl
    rw [htenfold, ← hseconds] at hnear
    refine ⟨_, ?_, ?_, .tenths negative (hseconds ▸ hless) hnear hnegative⟩
    · rw [if_pos (hminute.mpr hless), hfixed]
    · exact Nat.mod_lt _ (by decide)
  · have hmore := Nat.le_of_not_lt (mt hminute.mp hless)
    refine ⟨.minutes _ _, if_neg (mt hminute.mp hless), trivial,
      .minutes (hseconds ▸ not_lt.mp hless) (one_le_minutes h hden hvalue hmore) (mod_div_lt num hden) fun hsmall => ?_⟩
    have hsmall := hsmall _ rfl
    rw [hseconds] at hsmall ⊢
    rw [minutes_eq hden hsmall, ratio, Rat.floor_natCast_div_natCast]
    exact_mod_cast sixty_mul_add num den

/-- **Something is shown of every finite duration that is not negative.** -/
theorem exists_shows {d : Duration} (h : d.IsFinite) (hpos : 0 ≤ d.seconds) :
    ∃ x : Display, d.text? = .ok x.text ∧ x.HasDigit ∧ Shows d x := by
  cases h with
  | whole n =>
    obtain ⟨n, rfl⟩ := Int.eq_ofNat_of_zero_le (Int.cast_nonneg_iff.mp hpos)
    exact exists_shows_whole n
  | real negative hnormal => exact exists_shows_real hnormal hpos

/-! ## sixty seconds -/

section
variable {d : Duration} {x : Display} {n : Nat}

/-- below a minute there are no more tenths than in a minute, and as many only from `59.95` seconds on -/
theorem tenths_le (hless : d.seconds < 60) (hnear : d.NearTenths n) :
    n ≤ 600 ∧ (n = 600 ↔ 1199 / 20 ≤ d.seconds) := by
  have hle : n ≤ 600 := le_of_between hnear (between_natCast 600) (by push_cast; linarith)
  refine ⟨hle, ?_, fun h => ?_⟩
  · rintro rfl
    have := hnear.le.1
    push_cast at this
    linarith
  · have hhalf : Between (600 % 2 = 0) ((600 : Nat) - 1 / 2) (1199 / 2) ((600 : Nat) + 1 / 2) :=
      .inr ⟨rfl, by norm_num, by norm_num⟩
    exact Nat.le_antisymm hle (le_of_between hhalf hnear (by linarith))

theorem seconds_negative_zero : (Duration.real (zero true)).seconds = 0 := by
  rw [zero, seconds_real, ratio_magnitude, Nat.cast_zero, zero_mul, mul_zero]

/-- there are no tenths in a negative zero -/
theorem tenths_eq_zero (hnear : d.NearTenths n) (h : d = .real (zero true)) : n = 0 := by
  rw [NearTenths, h, seconds_negative_zero, mul_zero] at hnear
  exact Nat.le_zero.mp (le_of_between hnear (between_natCast 0) (by rw [Nat.cast_zero]))

/-- the floating-point number of seconds nearest to `59.96` -/
def almostMinute : Duration := .real (.finite false 8438619801785467 (-47))

theorem isFinite_almostMinute : almostMinute.IsFinite :=
  .real false ⟨by decide, by decide, by decide, .inl (by decide)⟩

theorem seconds_almostMinute : almostMinute.seconds = 8438619801785467 / 2 ^ 47 := by
  rw [almostMinute, seconds_real, ratio_magnitude]
  norm_num

theorem text_almostMinute : almostMinute.text? = .ok "60.0s" := by
  have hscaled : scaledByTwo 8438619801785467 1 (-47) = (8438619801785467, 140737488355328) := by decide
  have htenths : roundedQuotient (8438619801785467 * 10) 140737488355328 = 600 := by decide
  rw [almostMinute, text_real rfl, hscaled, if_pos (by decide), text_fixed, hscaled, htenths]
  rfl

/-- the seconds that are shown -/
theorem Shows.value_eq (h : Shows d x) :
    (d.seconds < 60 ∧ ∃ n : Nat, d.NearTenths n ∧ x.value = n / 10)
      ∨ (60 ≤ d.seconds ∧ (d.IsSmall → x.value = ⌊d.seconds⌋)) := by
  cases h with
  | minutes hmore _ _ hwhole =>
    refine .inr ⟨hmore, fun hsmall => ?_⟩
    rw [← hwhole hsmall, Display.value]
    push_cast
    rfl
  | tenths negative hless hnear hnegative =>
    rename_i n
    refine .inl ⟨hless, n, hnear, ?_⟩
    have hdigits : ((n / 10 : Nat) : ℚ) + (n % 10 : Nat) / 10 = n / 10 := by
      have : (n : ℚ) = 10 * (n / 10 : Nat) + (n % 10 : Nat) := by exact_mod_cast (Nat.div_add_mod n 10).symm
      linarith
    rw [Display.value, hdigits]
    cases negative with
    | false => rw [if_neg (by decide), one_mul]
    | true =>
      rw [tenths_eq_zero hnear (hnegative.mp rfl)]
      norm_num

/-- below a minute what is shown is at most half a tenth away -/
theorem abs_sub_le (hnear : d.NearTenths n) : |(n / 10 : ℚ) - d.seconds| ≤ 1 / 20 := by
  obtain ⟨hlow, hhigh⟩ := hnear.le
  rw [abs_le]
  constructor <;> linarith

end

end DatabaseTypes.Duration
