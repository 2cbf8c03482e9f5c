import DatabaseTypes.Proofs.Rounding

/-!
# The shortest decimal of a number

The decimal that stands for a number rounds to it: seventeen digits are enough for every number, and no decimal is
taken that does not round to it.

* `ten_zpow_le`                   powers of ten and of two
* `Binary64.includes_iff`         the interval of a number is what lies near it
* `Binary64.onGrid?_seventeen`    seventeen digits are enough
* `Binary64.shortest_spec`        the shortest decimal lies near the number
* `Binary64.ofDecimal_eq`         and what lies near a number is read as that number
-/

namespace DatabaseTypes

/-! ## powers -/

/-- a power of ten is at most a power of two, if the exponents are far enough from each other for `59 / 196` and
`28 / 93`, between which the logarithm of two lies -/
theorem ten_zpow_le {a b : Int} (h : 196 * a ≤ 59 * b) (h' : 93 * a ≤ 28 * b) : (10 : ℚ) ^ a ≤ 2 ^ b := by
  have hten (n : Int) : (0 : ℚ) < 10 ^ n := by positivity
  have htwo (n : Int) : (0 : ℚ) < 2 ^ n := by positivity
  rcases le_total 0 a with ha | ha
  · refine le_of_pow_le_pow_left₀ (n := 59) (by decide) (htwo b).le ?_
    have hbase : ((10 : ℚ) ^ (59 : Nat)) ^ a ≤ (2 ^ (196 : Nat)) ^ a :=
      zpow_le_zpow_left₀ ha (by positivity) (by norm_num)
    calc ((10 : ℚ) ^ a) ^ 59 = ((10 : ℚ) ^ 59) ^ a := by
          rw [← zpow_natCast, ← zpow_natCast, ← zpow_mul, ← zpow_mul, mul_comm]
      _ ≤ (2 ^ 196) ^ a := hbase
      _ = 2 ^ (196 * a) := by rw [← zpow_natCast, ← zpow_mul]; rfl
      _ ≤ 2 ^ (59 * b) := zpow_le_zpow_right₀ one_le_two h
      _ = (2 ^ b) ^ 59 := by rw [← zpow_natCast, ← zpow_mul, mul_comm]; rfl
  · refine le_of_pow_le_pow_left₀ (n := 28) (by decide) (htwo b).le ?_
    have hbase : ((10 : ℚ) ^ (28 : Nat)) ^ a ≤ (2 ^ (93 : Nat)) ^ a := by
      obtain ⟨n, rfl⟩ : ∃ n : Nat, a = -(n : Int) := ⟨(-a).toNat, by omega⟩
      rw [zpow_neg, zpow_neg, zpow_natCast, zpow_natCast]
      refine inv_anti₀ (by positivity) (pow_le_pow_left₀ (by positivity) (by norm_num) n)
    calc ((10 : ℚ) ^ a) ^ 28 = ((10 : ℚ) ^ 28) ^ a := by
          rw [← zpow_natCast, ← zpow_natCast, ← zpow_mul, ← zpow_mul, mul_comm]
      _ ≤ (2 ^ 93) ^ a := hbase
      _ = 2 ^ (93 * a) := by rw [← zpow_natCast, ← zpow_mul]; rfl
      _ ≤ 2 ^ (28 * b) := zpow_le_zpow_right₀ one_le_two h'
      _ = (2 ^ b) ^ 28 := by rw [← zpow_natCast, ← zpow_mul, mul_comm]; rfl

theorem two_zpow_le {a b : Int} (h : 59 * b ≤ 196 * a) (h' : 28 * b ≤ 93 * a) : (2 : ℚ) ^ b ≤ 10 ^ a := by
  have hneg := ten_zpow_le (a := -a) (b := -b) (by omega) (by omega)
  rw [zpow_neg, zpow_neg] at hneg
  exact (inv_le_inv₀ (by positivity) (by positivity)).mp hneg

namespace Binary64

/-! ## intervals -/

section
variable {m : Nat} {e : Int}

theorem ratio_value (m : Nat) (e : Int) : ratio ((interval m e).value, (interval m e).unit) = m * 2 ^ e := by
  have hscale := ratio_scaledByTwo 1 4 e
  unfold interval
  generalize scaledByTwo 1 4 e = x at hscale ⊢
  obtain ⟨scale, unit⟩ := x
  simp only [ratio] at hscale ⊢
  rw [Nat.cast_mul, mul_div_assoc, hscale]
  push_cast
  ring

theorem unit_pos (m : Nat) (e : Int) : 0 < (interval m e).unit := scaledByTwo_pos 1 (by decide) e

/-- the interval of a number is what lies near it -/
theorem includes_iff (hm : 0 < m) (digits : Nat) (exponent : Int) :
    (interval m e).includes digits exponent = true ↔ Nears m e (digits * 10 ^ exponent) := by
  have hvalue : ratio (scaledByTen digits 1 exponent) = digits * 10 ^ exponent := by
    rw [ratio_scaledByTen, Nat.cast_one, div_one]
  have hpos := scaledByTen_pos digits Nat.one_pos exponent
  have hscale := ratio_scaledByTwo 1 4 e
  have hunit : 0 < (scaledByTwo 1 4 e).2 := scaledByTwo_pos 1 (by decide) e
  rw [← hvalue]
  unfold Interval.includes interval Nears room
  dsimp only
  simp only [Nat.pow_eq]
  generalize scaledByTen digits 1 exponent = x at hpos ⊢
  generalize scaledByTwo 1 4 e = y at hscale hunit ⊢
  obtain ⟨n, d⟩ := x
  obtain ⟨scale, unit⟩ := y
  generalize hdown : (if m = 2 ^ 52 ∧ leastExponent < e then 1 else 2) = down
  have hle : down ≤ 4 * m := by
    rw [← hdown]
    split <;> omega
  have hd : (0 : ℚ) < d := by exact_mod_cast hpos
  have hu : (0 : ℚ) < unit := by exact_mod_cast hunit
  -- a bound in quarters of a step, without a quotient
  have hbound (k : Nat) : (k * scale : ℚ) / unit = k / 4 * 2 ^ e := by
    simp only [ratio] at hscale
    rw [mul_div_assoc, hscale]
    push_cast
    ring
  have hlow : ((4 * m - down : Nat) * scale : ℚ) / unit = (m - down / 4) * 2 ^ e := by
    rw [hbound, Nat.cast_sub hle]
    push_cast
    ring
  have hhigh : ((4 * m + 2 : Nat) * scale : ℚ) / unit = (m + 1 / 2) * 2 ^ e := by
    rw [hbound]
    push_cast
    ring
  have hlt : (m - down / 4) * 2 ^ e < ratio (n, d) ↔ (4 * m - down) * scale * d < n * unit := by
    rw [← hlow, ratio, div_lt_div_iff₀ hu hd]
    exact_mod_cast Iff.rfl
  have hle : (m - down / 4) * 2 ^ e ≤ ratio (n, d) ↔ (4 * m - down) * scale * d ≤ n * unit := by
    rw [← hlow, ratio, div_le_div_iff₀ hu hd]
    exact_mod_cast Iff.rfl
  have hgt : ratio (n, d) < (m + 1 / 2) * 2 ^ e ↔ n * unit < (4 * m + 2) * scale * d := by
    rw [← hhigh, ratio, div_lt_div_iff₀ hd hu]
    exact_mod_cast Iff.rfl
  have hge : ratio (n, d) ≤ (m + 1 / 2) * 2 ^ e ↔ n * unit ≤ (4 * m + 2) * scale * d := by
    rw [← hhigh, ratio, div_le_div_iff₀ hd hu]
    exact_mod_cast Iff.rfl
  rw [Between, hlt, hle, hgt, hge]
  dsimp only
  by_cases heven : m % 2 = 0
  · rw [if_pos (decide_eq_true heven)]
    simp only [Bool.and_eq_true, decide_eq_true_eq]
    exact ⟨fun h => .inr ⟨heven, h⟩, fun h => h.elim (fun h => ⟨h.1.le, h.2.le⟩) And.right⟩
  · rw [if_neg (by simpa using heven)]
    simp only [Bool.and_eq_true, decide_eq_true_eq]
    exact ⟨.inl, fun h => h.resolve_right fun h => heven h.1⟩

/-! ## grids -/

theorem abs_roundedQuotient (num : Nat) {den : Nat} (hden : 0 < den) :
    |(roundedQuotient num den : ℚ) - ratio (num, den)| ≤ 1 / 2 := by
  obtain ⟨hlow, hhigh⟩ := (between_roundedQuotient num hden).le
  rw [abs_le]
  constructor <;> linarith

/-- what is found on a grid lies in the interval -/
theorem onGrid?_eq_some {i : Interval} {exponent : Int} {digits : Nat} (h : onGrid? i exponent = some digits) :
    0 < digits ∧ i.includes digits exponent = true := by
  have hfirst (a b : Nat) : (if 0 < a ∧ i.includes a exponent = true then some a
      else if 0 < b ∧ i.includes b exponent = true then some b else none) = some digits →
      0 < digits ∧ i.includes digits exponent = true := by
    intro h
    split at h
    · rename_i ha
      exact Option.some.inj h ▸ ha
    · split at h
      · rename_i hb
        exact Option.some.inj h ▸ hb
      · cases h
  exact hfirst _ _ h

/-- the neighbour of a number on a grid is at most half a step away from it -/
theorem abs_onGrid (m : Nat) (e g : Int) :
    |(roundedQuotient (scaledByTen (interval m e).value (interval m e).unit (-g)).1
      (scaledByTen (interval m e).value (interval m e).unit (-g)).2 : ℚ) * 10 ^ g - m * 2 ^ e| ≤ 10 ^ g / 2 := by
  have hten : (0 : ℚ) < 10 ^ g := by positivity
  have hvalue : ratio (scaledByTen (interval m e).value (interval m e).unit (-g)) * 10 ^ g = m * 2 ^ e := by
    have hratio : ((interval m e).value : ℚ) / (interval m e).unit = m * 2 ^ e := ratio_value m e
    rw [ratio_scaledByTen, hratio, mul_assoc, ← zpow_add₀ (by norm_num), neg_add_cancel, zpow_zero, mul_one]
  have hnear := abs_roundedQuotient (scaledByTen (interval m e).value (interval m e).unit (-g)).1
    (scaledByTen_pos (interval m e).value (unit_pos m e) (-g))
  rw [← hvalue, ← sub_mul, abs_mul, abs_of_pos hten, div_eq_mul_one_div, mul_comm ((10 : ℚ) ^ g)]
  exact mul_le_mul_of_nonneg_right hnear hten.le

/-- what differs from a number by less than `10 ^ -16` of its half lies near it -/
theorem nears_of_abs {x d : ℚ} (h : IsNormal m e) (hd : d * 10 ^ 16 ≤ m * 2 ^ e) (hx : |x - m * 2 ^ e| ≤ d / 2) :
    Nears m e x := by
  have htwo : (0 : ℚ) < 2 ^ e := by positivity
  have hsmall : (m : ℚ) < 2 ^ 53 := by exact_mod_cast h.small
  have hless : (m : ℚ) * 2 ^ e < 2 ^ 53 * 2 ^ e := mul_lt_mul_of_pos_right hsmall htwo
  obtain ⟨hlow, hhigh⟩ := abs_le.mp hx
  refine .inl ⟨?_, by linarith⟩
  unfold room
  split
  -- at a power of two the bound below is nearer, and the number is smaller
  · rename_i hm
    rw [hm.1] at hlow hd ⊢
    push_cast at hlow hd ⊢
    linarith
  · push_cast
    linarith

/-- a number is found on a grid that is finer than `10 ^ -16` of it -/
theorem onGrid?_isSome (h : IsNormal m e) (hm : 0 < m) {g : Int} (hg : (10 : ℚ) ^ (g + 16) ≤ m * 2 ^ e) :
    (onGrid? (interval m e) g).isSome := by
  have hten : (0 : ℚ) < 10 ^ g := by positivity
  have hstep : (10 : ℚ) ^ g * 10 ^ 16 ≤ m * 2 ^ e := by
    rw [zpow_add₀ (by norm_num)] at hg
    exact hg
  have hnears := nears_of_abs h hstep (abs_onGrid m e g)
  unfold onGrid?
  dsimp only
  generalize roundedQuotient (scaledByTen (interval m e).value (interval m e).unit (-g)).1
    (scaledByTen (interval m e).value (interval m e).unit (-g)).2 = nearest at hnears ⊢
  have hpos : 0 < nearest := by
    rcases Nat.eq_zero_or_pos nearest with rfl | hpos
    · simpa using hnears.pos hm
    · exact hpos
  rw [if_pos ⟨hpos, (includes_iff hm _ _).mpr hnears⟩]
  rfl

/-! ## the point -/

/-- the place of the point is not too far to the left -/
theorem le_pointFrom {num den : Nat} (hden : 0 < den) (tries : Nat) {start : Int}
    (h : (10 : ℚ) ^ (start - 1) ≤ ratio (num, den)) :
    start ≤ pointFrom num den tries start ∧ (10 : ℚ) ^ (pointFrom num den tries start - 1) ≤ ratio (num, den) := by
  induction tries generalizing start with
  | zero => exact ⟨le_rfl, h⟩
  | succ tries ih =>
    unfold pointFrom
    dsimp only
    split
    · exact ⟨le_rfl, h⟩
    · rename_i hnot
      have hten : (0 : ℚ) < 10 ^ start := by positivity
      have hpos : (0 : ℚ) < (scaledByTen num den (-start)).2 := by exact_mod_cast scaledByTen_pos num hden (-start)
      have hone : (1 : ℚ) ≤ ratio (scaledByTen num den (-start)) := by
        rw [ratio, le_div_iff₀ hpos, one_mul]
        exact_mod_cast Nat.le_of_not_lt hnot
      rw [ratio_scaledByTen, zpow_neg, ← div_eq_mul_inv, le_div_iff₀ hten, one_mul] at hone
      have hstart : (10 : ℚ) ^ (start + 1 - 1) ≤ ratio (num, den) := by
        rw [add_sub_cancel_right]
        exact hone
      exact ⟨(ih hstart).1.trans' (by omega), (ih hstart).2⟩

theorem point_spec (h : IsNormal m e) (hm : 0 < m) :
    -325 ≤ point (interval m e).value (interval m e).unit
      ∧ (10 : ℚ) ^ (point (interval m e).value (interval m e).unit - 1) ≤ m * 2 ^ e := by
  have hratio := ratio_value m e
  have htwo : (0 : ℚ) < 2 ^ e := by positivity
  have hm' : (1 : ℚ) ≤ m := by exact_mod_cast hm
  have hvalue : 0 < (interval m e).value := by
    rcases Nat.eq_zero_or_pos (interval m e).value with h0 | hpos
    · rw [h0, ratio, Nat.cast_zero, zero_div] at hratio
      exact absurd hratio (mul_pos (by linarith) htwo).ne
    · exact hpos
  have hlog := log2Quotient_spec hvalue (unit_pos m e)
  have hleast : e ≤ log2Quotient (interval m e).value (interval m e).unit := by
    have hlt : (2 : ℚ) ^ e < 2 ^ (log2Quotient (interval m e).value (interval m e).unit + 1) := by
      refine lt_of_le_of_lt ?_ hlog.2
      rw [hratio]
      exact le_mul_of_one_le_left htwo.le hm'
    have := (zpow_lt_zpow_iff_right₀ (one_lt_two : (1 : ℚ) < 2)).mp hlt
    omega
  have hgreatest : log2Quotient (interval m e).value (interval m e).unit < e + 53 := by
    refine log2Quotient_lt hvalue (unit_pos m e) ?_
    rw [hratio, add_comm, two_zpow_add]
    exact mul_lt_mul_of_pos_right (by exact_mod_cast h.small) htwo
  obtain ⟨hl, hg⟩ := And.intro h.least h.greatest
  unfold leastExponent at hl
  unfold greatestExponent at hg
  unfold point
  generalize log2Quotient (interval m e).value (interval m e).unit = k at hlog hleast hgreatest ⊢
  have hstart : (10 : ℚ) ^ (k * 30103 / 100000 - 1 - 1) ≤ ratio ((interval m e).value, (interval m e).unit) :=
    (ten_zpow_le (by omega) (by omega)).trans hlog.1
  obtain ⟨hle, hpow⟩ := le_pointFrom (unit_pos m e) 4 hstart
  rw [hratio] at hpow
  exact ⟨hle.trans' (by omega), hpow⟩

/-! ## the shortest decimal -/

/-- the first grid with a decimal in the interval, if there is one in time -/
theorem shortestFrom_spec {i : Interval} {p : Int} {c : Nat} (count more : Nat) (hc : count ≤ c)
    (hlt : c < count + more) (h : (onGrid? i (p - c)).isSome) : ∃ digits, ∃ n ≤ c, onGrid? i (p - n) = some digits
      ∧ shortestFrom i p more count = (digits, p - n) := by
  induction more generalizing count with
  | zero => omega
  | succ more ih =>
    unfold shortestFrom
    cases hg : onGrid? i (p - count) with
    | some digits => exact ⟨digits, count, hc, hg, rfl⟩
    | none =>
      refine ih _ (lt_of_le_of_ne hc ?_) (by omega)
      rintro rfl
      rw [hg] at h
      cases h

/-- the shortest decimal lies near its number; its exponent is not far below that of the least number -/
theorem shortest_spec (h : IsNormal m e) (hm : 0 < m) :
    0 < (shortest m e).1 ∧ -342 ≤ (shortest m e).2 ∧ Nears m e ((shortest m e).1 * 10 ^ (shortest m e).2) := by
  obtain ⟨hpoint, hpow⟩ := point_spec h hm
  have hsome : (onGrid? (interval m e) (point (interval m e).value (interval m e).unit - (17 : Nat))).isSome := by
    refine onGrid?_isSome h hm ?_
    have harith : point (interval m e).value (interval m e).unit - (17 : Nat) + 16
        = point (interval m e).value (interval m e).unit - 1 := by
      push_cast
      ring
    rw [harith]
    exact hpow
  obtain ⟨digits, n, hn, hgrid, heq⟩ := shortestFrom_spec 1 17 (by decide) (by decide) hsome
  obtain ⟨hpos, hin⟩ := onGrid?_eq_some hgrid
  have hshortest : shortest m e = (digits, point (interval m e).value (interval m e).unit - n) := heq
  rw [hshortest]
  exact ⟨hpos, by dsimp only; omega, (includes_iff hm _ _).mp hin⟩

/-! ## reading -/

/-- a decimal near a number is read as that number -/
theorem ofDecimal_eq (negative : Bool) (h : IsNormal m e) (hm : 0 < m) {digits : Nat} {exponent : Int}
    (hexponent : -400 ≤ exponent) (hx : Nears m e (digits * 10 ^ exponent)) :
    ofDecimal negative digits exponent = .finite negative m e := by
  have hten : (0 : ℚ) < 10 ^ exponent := by positivity
  have hdigits : digits ≠ 0 := by
    rintro rfl
    simpa using hx.pos hm
  obtain ⟨hl, hg⟩ := And.intro h.least h.greatest
  unfold leastExponent at hl
  unfold greatestExponent at hg
  have hlog : (2 : ℚ) ^ (Nat.log2 digits : Int) ≤ digits := by
    rw [zpow_natCast]
    exact_mod_cast Nat.log2_self_le hdigits
  have hlog' : (digits : ℚ) < 2 ^ ((Nat.log2 digits : Int) + 1) := by
    have hcast : (Nat.log2 digits : Int) + 1 = ((Nat.log2 digits + 1 : Nat) : Int) := rfl
    rw [hcast, zpow_natCast]
    exact_mod_cast Nat.lt_log2_self
  have hlow : (2 : ℚ) ^ (-1075 : Int) ≤ digits * 10 ^ exponent := by
    have hroom : (room m e : ℚ) ≤ 2 := by exact_mod_cast room_le m e
    have hm' : (1 : ℚ) ≤ m := by exact_mod_cast hm
    calc (2 : ℚ) ^ (-1075 : Int) ≤ 2 ^ (-1 + e) := zpow_le_zpow_right₀ one_le_two (by omega)
      _ = 1 / 2 * 2 ^ e := by rw [two_zpow_add, zpow_neg_one, one_div]
      _ ≤ (m - room m e / 4) * 2 ^ e := mul_le_mul_of_nonneg_right (by linarith) (by positivity)
      _ ≤ digits * 10 ^ exponent := hx.le.1
  have hhigh : digits * 10 ^ exponent < (2 : ℚ) ^ (1024 : Int) :=
    (hx.lt h).trans_le (zpow_le_zpow_right₀ one_le_two (by omega))
  generalize hk : (Nat.log2 digits : Int) = k at hlog hlog'
  have hk0 : 0 ≤ k := hk ▸ Int.natCast_nonneg _
  have hpower {a b : Int} (hab : (10 : ℚ) ^ a < 10 ^ b) : a < b :=
    (zpow_lt_zpow_iff_right₀ (by norm_num : (1 : ℚ) < 10)).mp hab
  -- the digits are not so many that the estimate of their number fails
  have hkle : k < 2400 := by
    refine (zpow_lt_zpow_iff_right₀ (one_lt_two : (1 : ℚ) < 2)).mp ?_
    have hless : (2 : ℚ) ^ k * 10 ^ exponent < 2 ^ (1024 : Int) :=
      (mul_le_mul_of_nonneg_right hlog hten.le).trans_lt hhigh
    calc (2 : ℚ) ^ k < 2 ^ (1024 : Int) * 10 ^ (-exponent) := by
          rw [zpow_neg, ← div_eq_mul_inv]
          exact (lt_div_iff₀ hten).mpr hless
      _ ≤ 2 ^ (1024 : Int) * 2 ^ (1376 : Int) :=
          mul_le_mul_of_nonneg_left (ten_zpow_le (by omega) (by omega)) (by positivity)
      _ = 2 ^ (2400 : Int) := by rw [← two_zpow_add]; norm_num
  have hupper : k * 30103 / 100000 - 2 + exponent < 309 := by
    refine hpower ?_
    calc (10 : ℚ) ^ (k * 30103 / 100000 - 2 + exponent) = 10 ^ (k * 30103 / 100000 - 2) * 10 ^ exponent :=
          zpow_add₀ (by norm_num) _ _
      _ ≤ digits * 10 ^ exponent :=
          mul_le_mul_of_nonneg_right ((ten_zpow_le (by omega) (by omega)).trans hlog) hten.le
      _ < 2 ^ (1024 : Int) := hhigh
      _ ≤ 10 ^ (309 : Int) := two_zpow_le (by norm_num) (by norm_num)
  have hlower : -324 < k * 30103 / 100000 + 3 + exponent := by
    refine hpower ?_
    calc (10 : ℚ) ^ (-324 : Int) ≤ 2 ^ (-1075 : Int) := ten_zpow_le (by norm_num) (by norm_num)
      _ ≤ digits * 10 ^ exponent := hlow
      _ < 10 ^ (k * 30103 / 100000 + 3) * 10 ^ exponent :=
          mul_lt_mul_of_pos_right (hlog'.trans_le (two_zpow_le (by omega) (by omega))) hten
      _ = 10 ^ (k * 30103 / 100000 + 3 + exponent) := (zpow_add₀ (by norm_num) _ _).symm
  unfold ofDecimal
  rw [if_neg hdigits]
  dsimp only
  rw [hk, if_neg (by omega), if_neg (by omega)]
  refine ofQuotient_eq negative h hm (scaledByTen_pos digits Nat.one_pos exponent) ?_
  have hratio : ratio ((scaledByTen digits 1 exponent).1, (scaledByTen digits 1 exponent).2)
      = digits * 10 ^ exponent := by
    have := ratio_scaledByTen digits 1 exponent
    rw [Nat.cast_one, div_one] at this
    exact this
  rw [hratio]
  exact hx

end
end Binary64
end DatabaseTypes
