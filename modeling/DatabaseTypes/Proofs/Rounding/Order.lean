import DatabaseTypes.Proofs.Rounding

/-!
# Rounding keeps the order

A quotient that is at most a floating-point number is rounded to one that is at most that number, and so it is the other
way round.  What is a floating-point number already is rounded to itself.

* `Binary64.steps_le`, `Binary64.le_steps`   how many steps a quotient is, and the numbers above and below it
* `Binary64.ofQuotient_le`, `Binary64.le_ofQuotient`   what a quotient is rounded to
* `Binary64.exists_normal`       a natural number that is not too large is a floating-point number
* `Binary64.natCast_le_ofQuotient`, `Binary64.ofQuotient_natCast`  and is rounded to itself
-/

namespace DatabaseTypes.Binary64

variable {m n num den : Nat} {e f : Int}

theorem IsNormal.lt (h : IsNormal m e) : (m * 2 ^ e : ℚ) < 2 ^ (e + 53) := by
  have hsmall : (m : ℚ) < 2 ^ 53 := by exact_mod_cast h.small
  have htwo : (0 : ℚ) < 2 ^ e := by positivity
  rw [two_zpow_add, mul_comm ((2 : ℚ) ^ e)]
  exact mul_lt_mul_of_pos_right hsmall htwo

/-- a number of long steps is a number of short ones -/
theorem mul_two_zpow_add (m k : Nat) (f : Int) : (m * 2 ^ (f + k) : ℚ) = (m * 2 ^ k : Nat) * 2 ^ f := by
  rw [two_zpow_add, zpow_natCast]
  push_cast
  ring

/-! ## steps -/

section
variable (hnum : 0 < num) (hden : 0 < den) (hf : max (log2Quotient num den - 52) leastExponent = f)
include hnum hden hf

/-- the steps of a quotient are no longer than those of a number that it is at most -/
theorem exponent_le (h : IsNormal m e) (hx : ratio (num, den) ≤ m * 2 ^ e) : f ≤ e := by
  by_contra hlt
  have hleast := h.least
  have hlow : (2 : ℚ) ^ (e + 53) ≤ ratio (num, den) :=
    (zpow_le_zpow_right₀ one_le_two (by omega)).trans (log2Quotient_spec hnum hden).1
  linarith [h.lt]

variable (hn : roundedQuotient (scaledByTwo num den (-f)).1 (scaledByTwo num den (-f)).2 = n)
include hn

/-- a number that is no less than a quotient is no less than the steps of the quotient -/
theorem steps_le (h : IsNormal m e) (hx : ratio (num, den) ≤ m * 2 ^ e) : (n * 2 ^ f : ℚ) ≤ m * 2 ^ e := by
  have hfe := exponent_le hnum hden hf h hx
  obtain ⟨k, rfl⟩ : ∃ k : Nat, e = f + k := ⟨(e - f).toNat, by omega⟩
  have htwo : (0 : ℚ) < 2 ^ f := by positivity
  have hsteps : n ≤ m * 2 ^ k := by
    rw [← hn]
    refine roundedQuotient_le ?_ (scaledByTwo_pos num hden (-f))
    rw [ratio_steps, div_le_iff₀ htwo, ← mul_two_zpow_add]
    exact hx
  rw [mul_two_zpow_add]
  exact mul_le_mul_of_nonneg_right (by exact_mod_cast hsteps) htwo.le

/-- a number that is no more than a quotient is no more than the steps of the quotient -/
theorem le_steps (h : IsNormal m e) (hx : m * 2 ^ e ≤ ratio (num, den)) : (m * 2 ^ e : ℚ) ≤ n * 2 ^ f := by
  have htwo : (0 : ℚ) < 2 ^ f := by positivity
  rcases le_or_gt f e with hfe | hlt
  · obtain ⟨k, rfl⟩ : ∃ k : Nat, e = f + k := ⟨(e - f).toNat, by omega⟩
    rw [mul_two_zpow_add] at hx ⊢
    have hsteps : m * 2 ^ k ≤ n := by
      rw [← hn]
      refine le_roundedQuotient ?_ (scaledByTwo_pos num hden (-f))
      rw [ratio_steps, le_div_iff₀ htwo]
      exact hx
    exact mul_le_mul_of_nonneg_right (by exact_mod_cast hsteps) htwo.le
  · -- the steps of the quotient are longer, and they are so many that no number with shorter ones reaches them
    have hleast := h.least
    have hmany : 2 ^ 52 ≤ n := hn ▸ (roundedQuotient_steps hnum hden hf).2 (by omega)
    calc (m * 2 ^ e : ℚ) ≤ 2 ^ (e + 53) := h.lt.le
      _ ≤ 2 ^ (f + 52) := zpow_le_zpow_right₀ one_le_two (by omega)
      _ = 2 ^ 52 * 2 ^ f := by rw [two_zpow_add, mul_comm]; rfl
      _ ≤ n * 2 ^ f := mul_le_mul_of_nonneg_right (by exact_mod_cast hmany) htwo.le

omit hden in
/-- what a quotient is rounded to is worth its steps -/
theorem value_ofQuotient {negative s : Bool} (h : ofQuotient negative num den = .finite s m e) :
    (m * 2 ^ e : ℚ) = n * 2 ^ f := by
  rw [ofQuotient_of_rounded negative hnum hf hn] at h
  split at h
  · rename_i hfull
    split at h
    · cases h
    · cases h
      rw [hfull, two_zpow_add, zpow_one]
      push_cast
      ring
  · split at h
    · cases h
    · cases h
      rfl

/-- a quotient that is at most a number is not rounded to infinity -/
theorem finite_ofQuotient (negative : Bool) (h : IsNormal m e) (hx : ratio (num, den) ≤ m * 2 ^ e) :
    ∃ m' e', ofQuotient negative num den = .finite negative m' e' := by
  have hfe := exponent_le hnum hden hf h hx
  have hgreatest := h.greatest
  rw [ofQuotient_of_rounded negative hnum hf hn]
  split
  · rename_i hfull
    have hle := steps_le hnum hden hf hn h hx
    -- so many steps are worth more than any number with steps of the same length
    have hlt : (2 : ℚ) ^ (f + 53) < 2 ^ (e + 53) := by
      refine lt_of_le_of_lt (le_of_eq ?_) (hle.trans_lt h.lt)
      rw [hfull, two_zpow_add, mul_comm]
      push_cast
      rfl
    have := (zpow_lt_zpow_iff_right₀ (one_lt_two : (1 : ℚ) < 2)).mp hlt
    exact ⟨_, _, if_neg (by omega)⟩
  · exact ⟨_, _, if_neg (by omega)⟩

end

/-! ## numbers -/

/-- a quotient that is at most a number is rounded to one that is at most it -/
theorem ofQuotient_le (negative : Bool) (h : IsNormal m e) (hden : 0 < den) (hx : ratio (num, den) ≤ m * 2 ^ e) :
    ∃ m' e', ofQuotient negative num den = .finite negative m' e' ∧ (m' * 2 ^ e' : ℚ) ≤ m * 2 ^ e := by
  rcases Nat.eq_zero_or_pos num with rfl | hnum
  · refine ⟨0, leastExponent, rfl, ?_⟩
    rw [Nat.cast_zero, zero_mul]
    positivity
  obtain ⟨m', e', hfinite⟩ := finite_ofQuotient hnum hden rfl rfl negative h hx
  refine ⟨m', e', hfinite, ?_⟩
  rw [value_ofQuotient hnum rfl rfl hfinite]
  exact steps_le hnum hden rfl rfl h hx

/-- a quotient that is at least a number is rounded to one that is at least it -/
theorem le_ofQuotient {negative s : Bool} {m' : Nat} {e' : Int} (h : IsNormal m e) (hden : 0 < den)
    (hx : m * 2 ^ e ≤ ratio (num, den)) (hfinite : ofQuotient negative num den = .finite s m' e') :
    (m * 2 ^ e : ℚ) ≤ m' * 2 ^ e' := by
  rcases Nat.eq_zero_or_pos num with rfl | hnum
  · have hzero : ratio (0, den) = 0 := by rw [ratio, Nat.cast_zero, zero_div]
    rw [hzero] at hx
    exact hx.trans (by positivity)
  rw [value_ofQuotient hnum rfl rfl hfinite]
  exact le_steps hnum hden rfl rfl h hx

/-- a natural number that is not too large is a floating-point number -/
theorem exists_normal (hn : n < 2 ^ 53) : ∃ m e, IsNormal m e ∧ (m * 2 ^ e : ℚ) = n := by
  rcases Nat.eq_zero_or_pos n with rfl | hpos
  · exact ⟨0, leastExponent, normal_zero false, by rw [Nat.cast_zero, zero_mul]⟩
  -- the number is shifted until it has as many digits as a significand
  have hlog : Nat.log2 n ≤ 52 := Nat.le_of_lt_succ ((Nat.log2_lt hpos.ne').mpr hn)
  obtain ⟨k, hk⟩ : ∃ k, Nat.log2 n + k = 52 := ⟨52 - Nat.log2 n, by omega⟩
  refine ⟨n * 2 ^ k, -(k : Int), ⟨?_, ?_, ?_, .inl ?_⟩, ?_⟩
  · calc n * 2 ^ k < 2 ^ (Nat.log2 n + 1) * 2 ^ k :=
          Nat.mul_lt_mul_of_pos_right Nat.lt_log2_self (Nat.two_pow_pos k)
      _ = 2 ^ 53 := by rw [← Nat.pow_add, Nat.add_right_comm, hk]
  · unfold leastExponent
    omega
  · unfold greatestExponent
    omega
  · calc 2 ^ 52 = 2 ^ Nat.log2 n * 2 ^ k := by rw [← Nat.pow_add, hk]
      _ ≤ n * 2 ^ k := Nat.mul_le_mul_right _ (Nat.log2_self_le hpos.ne')
  · rw [zpow_neg, zpow_natCast]
    push_cast
    field_simp

/-- a quotient that is at least a natural number that is not too large is rounded to a number that is at least it -/
theorem natCast_le_ofQuotient {negative s : Bool} (hn : n < 2 ^ 53) (hden : 0 < den) (hx : (n : ℚ) ≤ ratio (num, den))
    (hfinite : ofQuotient negative num den = .finite s m e) : (n : ℚ) ≤ m * 2 ^ e := by
  obtain ⟨m', e', h, hvalue⟩ := exists_normal hn
  rw [← hvalue] at hx ⊢
  exact le_ofQuotient h hden hx hfinite

/-- a natural number that is not too large is rounded to itself -/
theorem ofQuotient_natCast (negative : Bool) (hn : n < 2 ^ 53) (hden : 0 < den) (hx : ratio (num, den) = n) :
    ∃ m e, ofQuotient negative num den = .finite negative m e ∧ (m * 2 ^ e : ℚ) = n := by
  obtain ⟨m, e, h, hvalue⟩ := exists_normal hn
  rw [← hvalue] at hx ⊢
  obtain ⟨m', e', hfinite, hle⟩ := ofQuotient_le negative h hden hx.le
  exact ⟨m', e', hfinite, le_antisymm hle (le_ofQuotient h hden hx.ge hfinite)⟩

end DatabaseTypes.Binary64
