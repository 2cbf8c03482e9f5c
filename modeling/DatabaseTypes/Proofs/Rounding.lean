import DatabaseTypes.Decimal.Shortest
import Mathlib.Algebra.Order.Field.Power
import Mathlib.Tactic.Linarith
import Mathlib.Tactic.Positivity
import Mathlib.Tactic.FieldSimp
import Mathlib.Tactic.Ring
import Mathlib.Tactic.NormNum

/-!
# Rounding to a floating-point number

A quotient that lies near enough to a number is rounded to it.  How near that is hangs on the number: half a step of
its exponent to either side, only a quarter of one below a power of two, and the bounds themselves belong to the
numbers with an even significand.

* `Binary64.Normal`              the numbers as they come out of rounding
* `roundedQuotient_eq`           rounding to natural numbers, which keeps the order (`le_of_between`)
* `Binary64.log2Quotient_spec`   the integer part of a logarithm
* `Binary64.Nears`               what lies near a number
* `Binary64.ofQuotient_eq`       and is rounded to it
-/

namespace DatabaseTypes

/-! ## quotients -/

/-- the value of a quotient -/
def ratio (x : Nat × Nat) : ℚ := (x.1 : ℚ) / x.2

theorem ratio_scaledByTwo (num den : Nat) (e : Int) :
    ratio (scaledByTwo num den e) = (num : ℚ) / den * 2 ^ e := by
  unfold scaledByTwo ratio
  split
  · rename_i he
    obtain ⟨n, rfl⟩ := Int.eq_ofNat_of_zero_le he
    simp only [Int.toNat_natCast, Nat.pow_eq, Nat.cast_mul, Nat.cast_pow, Nat.cast_ofNat, zpow_natCast]
    ring
  · rename_i he
    obtain ⟨n, hn⟩ := Int.eq_ofNat_of_zero_le (a := -e) (by omega)
    obtain rfl : e = -(n : Int) := by omega
    simp only [neg_neg, Int.toNat_natCast, Nat.pow_eq, Nat.cast_mul, Nat.cast_pow, Nat.cast_ofNat, zpow_neg,
      zpow_natCast]
    ring

/-- the value of a significand and an exponent -/
theorem ratio_magnitude (m : Nat) (e : Int) : ratio (scaledByTwo m 1 e) = m * 2 ^ e := by
  rw [ratio_scaledByTwo, Nat.cast_one, div_one]

/-- a quotient in steps of a power of two -/
theorem ratio_steps (num den : Nat) (f : Int) :
    ratio ((scaledByTwo num den (-f)).1, (scaledByTwo num den (-f)).2) = ratio (num, den) / 2 ^ f := by
  rw [div_eq_mul_inv, ← zpow_neg]
  exact ratio_scaledByTwo num den (-f)

theorem ratio_scaledByTen (num den : Nat) (e : Int) :
    ratio (scaledByTen num den e) = (num : ℚ) / den * 10 ^ e := by
  unfold scaledByTen ratio
  split
  · rename_i he
    obtain ⟨n, rfl⟩ := Int.eq_ofNat_of_zero_le he
    simp only [Int.toNat_natCast, Nat.pow_eq, Nat.cast_mul, Nat.cast_pow, Nat.cast_ofNat, zpow_natCast]
    ring
  · rename_i he
    obtain ⟨n, hn⟩ := Int.eq_ofNat_of_zero_le (a := -e) (by omega)
    obtain rfl : e = -(n : Int) := by omega
    simp only [neg_neg, Int.toNat_natCast, Nat.pow_eq, Nat.cast_mul, Nat.cast_pow, Nat.cast_ofNat, zpow_neg,
      zpow_natCast]
    ring

theorem scaledByTwo_pos (num : Nat) {den : Nat} (h : 0 < den) (e : Int) : 0 < (scaledByTwo num den e).2 := by
  unfold scaledByTwo
  split
  · exact h
  · exact Nat.mul_pos h (Nat.pow_pos (by decide))

theorem scaledByTen_pos (num : Nat) {den : Nat} (h : 0 < den) (e : Int) : 0 < (scaledByTen num den e).2 := by
  unfold scaledByTen
  split
  · exact h
  · exact Nat.mul_pos h (Nat.pow_pos (by decide))

/-! ## natural numbers -/

/-- a value between two bounds, which belong to what is between them or not -/
def Between (closed : Prop) (low x high : ℚ) : Prop := low < x ∧ x < high ∨ closed ∧ low ≤ x ∧ x ≤ high

theorem Between.le {closed : Prop} {low x high : ℚ} (h : Between closed low x high) : low ≤ x ∧ x ≤ high := by
  rcases h with h | h
  · exact ⟨h.1.le, h.2.le⟩
  · exact h.2

theorem Between.mono {closed : Prop} {low low' x high high' : ℚ} (h : Between closed low x high) (hlow : low' ≤ low)
    (hhigh : high ≤ high') : Between closed low' x high' := by
  rcases h with h | ⟨hc, h⟩
  · exact .inl ⟨hlow.trans_lt h.1, h.2.trans_le hhigh⟩
  · exact .inr ⟨hc, hlow.trans h.1, h.2.trans hhigh⟩

theorem Between.scale {closed : Prop} {low x high : ℚ} (h : Between closed low x high) {c : ℚ} (hc : 0 < c) :
    Between closed (low * c) (x * c) (high * c) := by
  rcases h with h | ⟨hclosed, h⟩
  · exact .inl ⟨mul_lt_mul_of_pos_right h.1 hc, mul_lt_mul_of_pos_right h.2 hc⟩
  · exact .inr ⟨hclosed, mul_le_mul_of_nonneg_right h.1 hc.le, mul_le_mul_of_nonneg_right h.2 hc.le⟩

/-- the order of values is that of the natural numbers they are rounded to -/
theorem le_of_between {m n : Nat} {x y : ℚ} (hx : Between (m % 2 = 0) (m - 1 / 2) x (m + 1 / 2))
    (hy : Between (n % 2 = 0) (n - 1 / 2) y (n + 1 / 2)) (h : x ≤ y) : m ≤ n := by
  by_contra hlt
  have hm : (n : ℚ) + 1 ≤ m := by exact_mod_cast Nat.lt_of_not_le hlt
  -- then both lie in the middle between two neighbours, which are not both even
  rcases hx with hx | ⟨heven, hx⟩
  · linarith [hy.le.2]
  · rcases hy with hy | ⟨heven', hy⟩
    · linarith [hx.1]
    · have hm' : (m : ℚ) ≤ n + 1 := by linarith [hx.1, hy.2]
      have : m ≤ n + 1 := by exact_mod_cast hm'
      omega

/-- a quotient is less than a half away from what it is rounded to, or a half if that is even -/
theorem between_roundedQuotient (num : Nat) {den : Nat} (hden : 0 < den) :
    Between (roundedQuotient num den % 2 = 0) (roundedQuotient num den - 1 / 2) (ratio (num, den))
      (roundedQuotient num den + 1 / 2) := by
  have hd : (0 : ℚ) < den := by exact_mod_cast hden
  have hdiv : (num : ℚ) = den * (num / den : Nat) + (num % den : Nat) := by
    exact_mod_cast (Nat.div_add_mod num den).symm
  have hmod : ((num % den : Nat) : ℚ) < den := by exact_mod_cast Nat.mod_lt num hden
  have hratio : ratio (num, den) = (num / den : Nat) + ((num % den : Nat) : ℚ) / den := by
    rw [ratio, hdiv, add_div, mul_div_cancel_left₀ _ hd.ne']
  have hrest : 0 ≤ ((num % den : Nat) : ℚ) / den := by positivity
  have hrest' : ((num % den : Nat) : ℚ) / den < 1 := (div_lt_one hd).mpr hmod
  have hless : 2 * (num % den) < den ↔ ((num % den : Nat) : ℚ) / den < 1 / 2 := by
    rw [div_lt_iff₀ hd, ← Nat.cast_lt (α := ℚ)]
    push_cast
    constructor <;> intro h <;> linarith
  have hmore : den < 2 * (num % den) ↔ 1 / 2 < ((num % den : Nat) : ℚ) / den := by
    rw [lt_div_iff₀ hd, ← Nat.cast_lt (α := ℚ)]
    push_cast
    constructor <;> intro h <;> linarith
  rw [hratio]
  unfold roundedQuotient
  dsimp only
  generalize num / den = q
  generalize ((num % den : Nat) : ℚ) / den = r at hrest hrest' hless hmore ⊢
  split
  · have := hless.mp (by assumption)
    exact .inl ⟨by linarith, by linarith⟩
  · have hge := not_lt.mp fun h => (by assumption : ¬ 2 * (num % den) < den) (hless.mpr h)
    split
    · have := hmore.mp (by assumption)
      push_cast
      exact .inl ⟨by linarith, by linarith⟩
    · have hle := not_lt.mp fun h => (by assumption : ¬ den < 2 * (num % den)) (hmore.mpr h)
      -- in the middle the even neighbour is taken
      split
      · exact .inr ⟨by assumption, by linarith, by linarith⟩
      · push_cast
        exact .inr ⟨by omega, by linarith, by linarith⟩

/-- a quotient is rounded to a natural number that it is less than a half away from, or a half if the number is
even -/
theorem roundedQuotient_eq {num den m : Nat} (hden : 0 < den)
    (h : Between (m % 2 = 0) (m - 1 / 2) (ratio (num, den)) (m + 1 / 2)) : roundedQuotient num den = m := by
  have hrounded := between_roundedQuotient num hden
  exact Nat.le_antisymm (le_of_between hrounded h le_rfl) (le_of_between h hrounded le_rfl)

/-- a natural number lies nearest to itself -/
theorem between_natCast (n : Nat) : Between (n % 2 = 0) ((n : ℚ) - 1 / 2) n (n + 1 / 2) :=
  .inl ⟨by linarith, by linarith⟩

theorem roundedQuotient_le {num den n : Nat} (h : ratio (num, den) ≤ n) (hden : 0 < den) : roundedQuotient num den ≤ n :=
  le_of_between (between_roundedQuotient num hden) (between_natCast n) h

theorem le_roundedQuotient {num den n : Nat} (h : n ≤ ratio (num, den)) (hden : 0 < den) : n ≤ roundedQuotient num den :=
  le_of_between (between_natCast n) (between_roundedQuotient num hden) h

namespace Binary64

/-! ## exponents -/

theorem ratio_pos {num den : Nat} (hnum : 0 < num) (hden : 0 < den) : 0 < ratio (num, den) :=
  div_pos (by exact_mod_cast hnum) (by exact_mod_cast hden)

/-- the integer part of the logarithm to base two -/
theorem log2Quotient_spec {num den : Nat} (hnum : 0 < num) (hden : 0 < den) :
    (2 : ℚ) ^ log2Quotient num den ≤ ratio (num, den) ∧ ratio (num, den) < 2 ^ (log2Quotient num den + 1) := by
  have hd : (0 : ℚ) < den := by exact_mod_cast hden
  have hbounds (n : Nat) (hn : 0 < n) : (2 : ℚ) ^ (Nat.log2 n : Int) ≤ n ∧ (n : ℚ) < 2 ^ ((Nat.log2 n : Int) + 1) := by
    constructor
    · rw [zpow_natCast]
      exact_mod_cast Nat.log2_self_le (Nat.pos_iff_ne_zero.mp hn)
    · have : ((Nat.log2 n : Int) + 1) = ((Nat.log2 n + 1 : Nat) : Int) := by push_cast; rfl
      rw [this, zpow_natCast]
      exact_mod_cast Nat.lt_log2_self
  obtain ⟨hnl, hnh⟩ := hbounds num hnum
  obtain ⟨hdl, hdh⟩ := hbounds den hden
  unfold log2Quotient
  dsimp only
  generalize (Nat.log2 num : Int) = a at hnl hnh ⊢
  generalize (Nat.log2 den : Int) = b at hdl hdh ⊢
  have htwo (x : Int) : (0 : ℚ) < 2 ^ x := by positivity
  have hlow : (2 : ℚ) ^ (a - b - 1) ≤ ratio (num, den) := by
    refine (le_div_iff₀ hd).mpr ?_
    calc (2 : ℚ) ^ (a - b - 1) * den ≤ 2 ^ (a - b - 1) * 2 ^ (b + 1) :=
          mul_le_mul_of_nonneg_left hdh.le (htwo _).le
      _ = 2 ^ a := by rw [← zpow_add₀ two_ne_zero]; congr 1; ring
      _ ≤ num := hnl
  have hhigh : ratio (num, den) < 2 ^ (a - b + 1) := by
    refine (div_lt_iff₀ hd).mpr ?_
    calc (num : ℚ) < 2 ^ (a + 1) := hnh
      _ = 2 ^ (a - b + 1) * 2 ^ b := by rw [← zpow_add₀ two_ne_zero]; congr 1; ring
      _ ≤ 2 ^ (a - b + 1) * den := mul_le_mul_of_nonneg_left hdl (htwo _).le
  have hratio := ratio_scaledByTwo num den (-(a - b))
  have hpos := scaledByTwo_pos num hden (-(a - b))
  generalize scaledByTwo num den (-(a - b)) = x at hratio hpos
  obtain ⟨n, d⟩ := x
  have hd' : (0 : ℚ) < d := by exact_mod_cast hpos
  have hcompare : d ≤ n ↔ (2 : ℚ) ^ (a - b) ≤ ratio (num, den) := by
    have hone : d ≤ n ↔ (1 : ℚ) ≤ ratio (n, d) := by
      rw [ratio, le_div_iff₀ hd', one_mul]
      exact Nat.cast_le.symm
    rw [hone, hratio, zpow_neg, ← div_eq_mul_inv, le_div_iff₀ (htwo _), one_mul]
    rfl
  by_cases hdn : d ≤ n
  · rw [if_pos hdn]
    exact ⟨hcompare.mp hdn, hhigh⟩
  · rw [if_neg hdn]
    refine ⟨hlow, ?_⟩
    rw [sub_add_cancel]
    exact lt_of_not_ge fun h => hdn (hcompare.mpr h)

/-- the logarithm of what lies between a power of two and its double -/
theorem log2Quotient_eq {num den : Nat} (hnum : 0 < num) (hden : 0 < den) {k : Int}
    (hlow : (2 : ℚ) ^ k ≤ ratio (num, den)) (hhigh : ratio (num, den) < 2 ^ (k + 1)) : log2Quotient num den = k := by
  obtain ⟨hl, hh⟩ := log2Quotient_spec hnum hden
  have h₁ := (zpow_lt_zpow_iff_right₀ (one_lt_two : (1 : ℚ) < 2)).mp (hl.trans_lt hhigh)
  have h₂ := (zpow_lt_zpow_iff_right₀ (one_lt_two : (1 : ℚ) < 2)).mp (hlow.trans_lt hh)
  omega

theorem log2Quotient_lt {num den : Nat} (hnum : 0 < num) (hden : 0 < den) {k : Int}
    (hhigh : ratio (num, den) < 2 ^ k) : log2Quotient num den < k :=
  (zpow_lt_zpow_iff_right₀ (one_lt_two : (1 : ℚ) < 2)).mp ((log2Quotient_spec hnum hden).1.trans_lt hhigh)

/-! ## numbers -/

/-- a significand and an exponent that come out of rounding -/
structure IsNormal (m : Nat) (e : Int) : Prop where
  small : m < 2 ^ 53
  least : leastExponent ≤ e
  greatest : e ≤ greatestExponent
  large : 2 ^ 52 ≤ m ∨ e = leastExponent

/-- how many quarters of a step below a number what is rounded to it can lie -/
def room (m : Nat) (e : Int) : Nat := if m = 2 ^ 52 ∧ leastExponent < e then 1 else 2

theorem room_le (m : Nat) (e : Int) : room m e ≤ 2 := by
  unfold room
  split <;> omega

/-- a value lies near a number: from a half of a step below it, or a quarter of one, to a half above it -/
def Nears (m : Nat) (e : Int) (x : ℚ) : Prop :=
  Between (m % 2 = 0) ((m - room m e / 4) * 2 ^ e) x ((m + 1 / 2) * 2 ^ e)

theorem two_zpow_add (m k : Int) : (2 : ℚ) ^ (m + k) = 2 ^ m * 2 ^ k := zpow_add₀ two_ne_zero m k

section
variable {m : Nat} {e : Int} {num den : Nat}

/-- the rounding of a quotient in steps of a power of two -/
theorem roundedQuotient_scaledByTwo {f : Int} (hden : 0 < den)
    (h : Between (m % 2 = 0) ((m - 1 / 2) * 2 ^ f) (ratio (num, den)) ((m + 1 / 2) * 2 ^ f)) :
    roundedQuotient (scaledByTwo num den (-f)).1 (scaledByTwo num den (-f)).2 = m := by
  have htwo : (0 : ℚ) < 2 ^ (-f) := by positivity
  have hcancel (x : ℚ) : x * 2 ^ f * 2 ^ (-f) = x := by
    rw [mul_assoc, ← two_zpow_add, add_neg_cancel, zpow_zero, mul_one]
  have hscaled := h.scale htwo
  rw [hcancel, hcancel, zpow_neg, ← div_eq_mul_inv] at hscaled
  refine roundedQuotient_eq (scaledByTwo_pos num hden (-f)) ?_
  rw [ratio_steps]
  exact hscaled

theorem Nears.pos {x : ℚ} (hm : 0 < m) (hx : Nears m e x) : 0 < x := by
  have hm' : (1 : ℚ) ≤ m := by exact_mod_cast hm
  have hroom : (room m e : ℚ) ≤ 2 := by exact_mod_cast room_le m e
  have htwo : (0 : ℚ) < 2 ^ e := by positivity
  exact (mul_pos (by linarith) htwo).trans_le hx.le.1

/-- what lies near a number is below the double of a power of two that is at most the number -/
theorem Nears.lt {x : ℚ} (h : IsNormal m e) (hx : Nears m e x) : x < 2 ^ (e + 53) := by
  have hsmall : (m : ℚ) + 1 / 2 < 2 ^ 53 := by
    have : (m : ℚ) + 1 ≤ 2 ^ 53 := by exact_mod_cast h.small
    linarith
  have htwo : (0 : ℚ) < 2 ^ e := by positivity
  calc x ≤ (m + 1 / 2) * 2 ^ e := hx.le.2
    _ < 2 ^ 53 * 2 ^ e := mul_lt_mul_of_pos_right hsmall htwo
    _ = 2 ^ (e + 53) := by rw [two_zpow_add, mul_comm]; rfl

/-- a value near a number that lies below the power of two of its exponent lies near that power, unless the exponent
is the least one -/
theorem Nears.eq_of_lt {x : ℚ} (h : IsNormal m e) (hx : Nears m e x) (hlt : x < 2 ^ (e + 52))
    (he : leastExponent < e) : m = 2 ^ 52 := by
  have hlarge := h.large.resolve_right (by omega)
  have htwo : (0 : ℚ) < 2 ^ e := by positivity
  refine (Nat.le_antisymm hlarge (Nat.le_of_not_lt fun hgt => ?_)).symm
  have hm : (2 : ℚ) ^ 52 + 1 ≤ m := by exact_mod_cast hgt
  have hroom : (room m e : ℚ) ≤ 2 := by exact_mod_cast room_le m e
  have hpow : (2 : ℚ) ^ (e + 52) = 2 ^ 52 * 2 ^ e := by rw [two_zpow_add, mul_comm]; rfl
  rw [hpow] at hlt
  have := lt_of_mul_lt_mul_right (hx.le.1.trans_lt hlt) htwo.le
  linarith

/-- the number that a quotient is rounded to, by the exponent of its steps and how many of them it is -/
theorem ofQuotient_of_rounded (negative : Bool) (hnum : 0 < num) {f : Int} {n : Nat}
    (hf : max (log2Quotient num den - 52) leastExponent = f)
    (hn : roundedQuotient (scaledByTwo num den (-f)).1 (scaledByTwo num den (-f)).2 = n) :
    ofQuotient negative num den = if n = 2 ^ 53 then
        if greatestExponent < f + 1 then .infinite negative else .finite negative (2 ^ 52) (f + 1)
      else if greatestExponent < f then .infinite negative else .finite negative n f := by
  unfold ofQuotient
  rw [if_neg (Nat.pos_iff_ne_zero.mp hnum)]
  dsimp only
  rw [hf, hn]
  simp only [Nat.pow_eq]
  by_cases h : n = 2 ^ 53
  · rw [if_pos h, if_pos h]
  · rw [if_neg h, if_neg h]

/-- **What lies near a number is rounded to it.** -/
theorem ofQuotient_eq (negative : Bool) (h : IsNormal m e) (hm : 0 < m) (hden : 0 < den)
    (hx : Nears m e (ratio (num, den))) : ofQuotient negative num den = .finite negative m e := by
  have hnum : 0 < num := by
    rcases Nat.eq_zero_or_pos num with rfl | hnum
    · simpa [ratio] using hx.pos hm
    · exact hnum
  have hgreatest : ¬ greatestExponent < e := Int.not_lt.mpr h.greatest
  have hless : ratio (num, den) < 2 ^ (e + 52 + 1) := by
    rw [add_assoc]
    exact hx.lt h
  by_cases hcase : (2 : ℚ) ^ (e + 52) ≤ ratio (num, den) ∨ e = leastExponent
  -- the steps of the value are those of the number
  · have hf : max (log2Quotient num den - 52) leastExponent = e := by
      rcases hcase with hge | he
      · rw [log2Quotient_eq hnum hden hge hless, add_sub_cancel_right]
        exact max_eq_left h.least
      · have := log2Quotient_lt hnum hden hless
        omega
    have hn := roundedQuotient_scaledByTwo (m := m) (f := e) hden (hx.mono ?_ le_rfl)
    · rw [ofQuotient_of_rounded negative hnum hf hn, if_neg (Nat.ne_of_lt h.small), if_neg hgreatest]
    · have hroom : (room m e : ℚ) ≤ 2 := by exact_mod_cast room_le m e
      exact mul_le_mul_of_nonneg_right (by linarith) (by positivity)
  -- the number is a power of two, and the value is below it, where the steps are half as long
  · obtain ⟨hlt, hne⟩ := not_or.mp hcase
    have he : leastExponent < e := lt_of_le_of_ne h.least (Ne.symm hne)
    obtain rfl := hx.eq_of_lt h (not_le.mp hlt) he
    have hhalf : (2 : ℚ) ^ e = 2 * 2 ^ (e - 1) := by
      rw [mul_comm, ← zpow_add_one₀ two_ne_zero, sub_add_cancel]
    have hroom : (room (2 ^ 52) e : ℚ) = 1 := by
      rw [room, if_pos ⟨rfl, he⟩, Nat.cast_one]
    have hnear : Between (2 ^ 53 % 2 = 0) (((2 ^ 53 : Nat) - 1 / 2) * 2 ^ (e - 1)) (ratio (num, den))
        (((2 ^ 53 : Nat) + 1 / 2) * 2 ^ (e - 1)) := by
      have hlow := hx.le.1
      rw [hroom, hhalf] at hlow
      refine .inr ⟨rfl, ?_, ?_⟩
      · refine le_trans (le_of_eq ?_) hlow
        push_cast
        ring
      · refine (not_le.mp hlt).le.trans ?_
        rw [two_zpow_add, hhalf]
        have hpos : (0 : ℚ) < 2 ^ (e - 1) := by positivity
        have hpow : (2 : ℚ) ^ (52 : Int) = 2 ^ 52 := zpow_natCast 2 52
        rw [hpow]
        push_cast
        linarith
    have hge : (2 : ℚ) ^ (e + 51) ≤ ratio (num, den) := by
      refine le_trans ?_ hnear.le.1
      rw [show e + 51 = 52 + (e - 1) by ring, two_zpow_add]
      have hpow : (2 : ℚ) ^ (52 : Int) = 2 ^ 52 := zpow_natCast 2 52
      rw [hpow]
      exact mul_le_mul_of_nonneg_right (by norm_num) (by positivity)
    have hf : max (log2Quotient num den - 52) leastExponent = e - 1 := by
      have hlt' : ratio (num, den) < 2 ^ (e + 51 + 1) := by
        rw [add_assoc]
        exact not_le.mp hlt
      rw [log2Quotient_eq hnum hden hge hlt']
      omega
    rw [ofQuotient_of_rounded negative hnum hf (roundedQuotient_scaledByTwo hden hnear), if_pos rfl,
      sub_add_cancel, if_neg hgreatest]

/-! ## what comes out of rounding -/

/-- a number that comes out of rounding -/
def Normal : Binary64 → Prop
  | .finite _ m e => IsNormal m e
  | _ => True

theorem normal_zero (negative : Bool) : (zero negative).Normal :=
  ⟨by decide, le_rfl, by decide, .inr rfl⟩

/-- the steps of a quotient are no more than `2 ^ 53`, and no fewer than `2 ^ 52` unless they are the shortest ones -/
theorem roundedQuotient_steps (hnum : 0 < num) (hden : 0 < den) {f : Int}
    (hf : max (log2Quotient num den - 52) leastExponent = f) :
    roundedQuotient (scaledByTwo num den (-f)).1 (scaledByTwo num den (-f)).2 ≤ 2 ^ 53
    ∧ (leastExponent < f → 2 ^ 52 ≤ roundedQuotient (scaledByTwo num den (-f)).1 (scaledByTwo num den (-f)).2) := by
  obtain ⟨hlow, hhigh⟩ := log2Quotient_spec hnum hden
  have hpos := scaledByTwo_pos num hden (-f)
  have htwo : (0 : ℚ) < 2 ^ f := by positivity
  constructor
  · refine roundedQuotient_le ?_ hpos
    rw [ratio_steps, div_le_iff₀ htwo]
    calc ratio (num, den) ≤ 2 ^ (log2Quotient num den + 1) := hhigh.le
      _ ≤ 2 ^ (53 + f) := zpow_le_zpow_right₀ one_le_two (by omega)
      _ = (2 ^ 53 : Nat) * 2 ^ f := by rw [two_zpow_add, Nat.cast_pow]; rfl
  · intro hlt
    refine le_roundedQuotient ?_ hpos
    rw [ratio_steps, le_div_iff₀ htwo]
    calc ((2 ^ 52 : Nat) : ℚ) * 2 ^ f = 2 ^ (52 + f) := by rw [two_zpow_add, Nat.cast_pow]; rfl
      _ ≤ 2 ^ log2Quotient num den := zpow_le_zpow_right₀ one_le_two (by omega)
      _ ≤ ratio (num, den) := hlow

theorem normal_ofQuotient (negative : Bool) (hden : 0 < den) : (ofQuotient negative num den).Normal := by
  by_cases hnum : num = 0
  · rw [ofQuotient, if_pos hnum]
    exact normal_zero negative
  have hnum := Nat.pos_of_ne_zero hnum
  rw [ofQuotient_of_rounded negative hnum rfl rfl]
  generalize hf : max (log2Quotient num den - 52) leastExponent = f
  obtain ⟨hsmall, hlarge⟩ := roundedQuotient_steps hnum hden hf
  have hleast : leastExponent ≤ f := hf ▸ le_max_right _ _
  generalize roundedQuotient (scaledByTwo num den (-f)).1 (scaledByTwo num den (-f)).2 = n at hsmall hlarge ⊢
  split
  · split
    · trivial
    · exact ⟨by decide, by omega, by omega, .inl (Nat.le_refl _)⟩
  · split
    · trivial
    · refine ⟨by omega, hleast, by omega, ?_⟩
      rcases hleast.eq_or_lt with e | hlt
      · exact .inr e.symm
      · exact .inl (hlarge hlt)

theorem normal_ofDecimal (negative : Bool) (digits : Nat) (exponent : Int) :
    (ofDecimal negative digits exponent).Normal := by
  unfold ofDecimal
  split
  · exact normal_zero negative
  · dsimp only
    split
    · trivial
    · split
      · exact normal_zero negative
      · exact normal_ofQuotient negative (scaledByTen_pos digits Nat.one_pos exponent)

end

end Binary64
end DatabaseTypes
