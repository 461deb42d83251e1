import Mathlib.Data.Nat.Cast.Order.Field
import Screens.Number.Shortest
import Screens.Proofs.Number.Nearest

/-! The shortest digits of a double read back to it.

The ends of the interval that the digits are tested against are the places midway to the two
neighbours (`interval_low`, `interval_high`), so a number in it has the double for its nearest
(`nearest_of_holds`). The interval is wider than the grid of seventeen digits, of which one of
the two neighbours then lies in it (`onGrid?_isSome_of_fine`), and so the search ends with a hit
(`nearest_shortest`). -/
namespace Screens.Double

/-! ### Exact comparisons -/

theorem zpow_eq_div {b : ℚ} (hb : b ≠ 0) (e : ℤ) : b ^ e = b ^ e.toNat / b ^ (-e).toNat := by
  rw [eq_div_iff (pow_ne_zero _ hb), ← zpow_natCast, ← zpow_natCast, ← zpow_add₀ hb]
  congr 1
  omega

theorem binaryLeDecimal_iff (m : Nat) (e : ℤ) (d : Nat) (k : ℤ) :
    binaryLeDecimal m e d k = true ↔ (m : ℚ) * 2 ^ e ≤ d * 10 ^ k := by
  have hten : (10 : ℚ) ≠ 0 := by norm_num
  rw [binaryLeDecimal, decide_eq_true_iff, zpow_eq_div two_ne_zero, zpow_eq_div hten,
    ← mul_div_assoc, ← mul_div_assoc, div_le_div_iff₀ (by positivity) (by positivity)]
  simp only [power_eq_pow]
  exact_mod_cast Iff.rfl

theorem decimalLeBinary_iff (d : Nat) (k : ℤ) (m : Nat) (e : ℤ) :
    decimalLeBinary d k m e = true ↔ (d : ℚ) * 10 ^ k ≤ m * 2 ^ e := by
  have hten : (10 : ℚ) ≠ 0 := by norm_num
  rw [decimalLeBinary, decide_eq_true_iff, zpow_eq_div two_ne_zero, zpow_eq_div hten,
    ← mul_div_assoc, ← mul_div_assoc, div_le_div_iff₀ (by positivity) (by positivity)]
  simp only [power_eq_pow]
  exact_mod_cast Iff.rfl

/-! ### The interval -/

variable {x : Double}

theorem significand_pos (h : x.pattern ≠ 0) : 0 < x.significand := by
  rw [significand, power_52]
  split <;> omega

theorem significand_lt (x : Double) : x.significand < 2 * power 2 52 := by
  rw [significand, power_52]
  split <;> omega

theorem two_zpow_exponent (x : Double) :
    (2 : ℚ) ^ x.exponent = 4 * 2 ^ x.interval.exponent := by
  have hexponent : x.exponent = 2 + x.interval.exponent := by
    have : x.interval.exponent = x.exponent - 2 := rfl
    omega
  rw [hexponent, zpow_add₀ two_ne_zero]
  norm_num

theorem interval_high (x : Double) :
    (x.interval.high : ℚ) * 2 ^ x.interval.exponent = midway x.pattern := by
  have hhigh : x.interval.high = 4 * x.significand + 2 := rfl
  rw [midway_eq, ← exponent_eq, ← significand_mul, two_zpow_exponent, hhigh]
  push_cast
  ring

theorem interval_low {s : Nat} (hs : x.pattern = s + 1) :
    (x.interval.low : ℚ) * 2 ^ x.interval.exponent = midway s := by
  have hpos := significand_pos (x := x) (by omega)
  have hmid : midway s = magnitude x.pattern - 2 ^ (((s / power 2 52 - 1 : Nat) : ℤ) - 1074) / 2 := by
    rw [midway, hs, magnitude_succ]
    ring
  rw [hmid, ← significand_mul, two_zpow_exponent]
  have hexponent := exponent_eq x
  have hlow : x.interval.low =
      if x.pattern % power 2 52 = 0 ∧ 2 * power 2 52 ≤ x.pattern then 4 * x.significand - 1
      else 4 * x.significand - 2 := rfl
  rw [hlow]
  rw [power_52] at *
  split
  · -- The gap below is half as wide.
    have hbelow : ((s / 4503599627370496 - 1 : Nat) : ℤ) - 1074 = x.interval.exponent + 1 := by
      have : x.interval.exponent = x.exponent - 2 := rfl
      omega
    rw [hbelow, zpow_add_one₀ two_ne_zero, Nat.cast_sub (by omega)]
    push_cast
    ring
  · have hbelow : ((s / 4503599627370496 - 1 : Nat) : ℤ) - 1074 = x.exponent := by omega
    rw [hbelow, two_zpow_exponent, Nat.cast_sub (by omega)]
    push_cast
    ring

theorem holds_iff {s : Nat} (hs : x.pattern = s + 1) (d : Nat) (k : ℤ) :
    x.interval.holds d k = true ↔
      if x.pattern % 2 = 0 then midway s ≤ d * 10 ^ k ∧ (d : ℚ) * 10 ^ k ≤ midway x.pattern
      else midway s < d * 10 ^ k ∧ (d : ℚ) * 10 ^ k < midway x.pattern := by
  have hclosed : x.interval.closed = decide (x.pattern % 2 = 0) := rfl
  rw [← interval_low hs, ← interval_high, Interval.holds, hclosed]
  by_cases heven : x.pattern % 2 = 0
  · simp [heven, binaryLeDecimal_iff, decimalLeBinary_iff]
  · rw [if_neg heven, if_neg (by simp [heven]), Bool.and_eq_true, Bool.not_eq_true',
      Bool.not_eq_true', ← Bool.not_eq_true, ← Bool.not_eq_true, binaryLeDecimal_iff,
      decimalLeBinary_iff, not_le, not_le]

/-- A number in the interval is read back to the double. -/
theorem nearest_of_holds (hx : x.pattern ≠ 0) {d : Nat} {k : ℤ}
    (h : x.interval.holds d k = true) : Nearest (d * 10 ^ k) x.pattern := by
  obtain ⟨s, hs⟩ := Nat.exists_eq_add_one_of_ne_zero hx
  rw [holds_iff hs] at h
  have hprev : ∀ t, x.pattern = t + 1 → t = s := by omega
  by_cases heven : x.pattern % 2 = 0
  · rw [if_pos heven] at h
    refine .of_neighbours h.2 (fun t ht => ?_) fun _ => heven
    rw [hprev t ht]
    exact h.1
  · rw [if_neg heven] at h
    refine .of_neighbours h.2.le (fun t ht => ?_) ?_
    · rw [hprev t ht]
      exact h.1.le
    · rintro (heq | ⟨t, ht, heq⟩)
      · exact absurd heq h.2.ne
      · rw [hprev t ht] at heq
        exact absurd heq h.1.ne'

/-- Between the places midway to its neighbours. -/
theorem holds_of_between {s : Nat} (hs : x.pattern = s + 1) {d : Nat} {k : ℤ}
    (hlow : midway s < d * 10 ^ k) (hhigh : (d : ℚ) * 10 ^ k < midway x.pattern) :
    x.interval.holds d k = true := by
  rw [holds_iff hs]
  split
  · exact ⟨hlow.le, hhigh.le⟩
  · exact ⟨hlow, hhigh⟩

/-- Sixteen times tenfold, the width of the interval is greater than the magnitude. -/
theorem magnitude_lt_width {s : Nat} (hs : x.pattern = s + 1) :
    magnitude x.pattern < 10 ^ 16 * (midway x.pattern - midway s) := by
  have hpos := significand_pos (x := x) (by omega)
  have hlt := significand_lt x
  have hunit : (0 : ℚ) < 2 ^ x.interval.exponent := by positivity
  have hwidth : 4 * x.significand + 10 ^ 16 * x.interval.low < 10 ^ 16 * x.interval.high := by
    have hnarrow : x.pattern % power 2 52 = 0 ∧ 2 * power 2 52 ≤ x.pattern →
        x.significand = power 2 52 := by
      rintro ⟨hmod, hle⟩
      rw [significand, if_neg (by rw [power_52] at *; omega), hmod, Nat.add_zero]
    rw [interval]
    rw [power_52] at *
    dsimp only
    split <;> omega
  have hcast : (4 * x.significand + 10 ^ 16 * x.interval.low : ℚ) < 10 ^ 16 * x.interval.high := by
    exact_mod_cast hwidth
  rw [← interval_low hs, ← interval_high, ← significand_mul, two_zpow_exponent]
  nlinarith

/-! ### The grid of seventeen digits -/

theorem floorOn_spec (x : Double) (k : ℤ) :
    (x.floorOn k : ℚ) * 10 ^ k ≤ magnitude x.pattern ∧
      magnitude x.pattern < (x.floorOn k + 1 : Nat) * 10 ^ k := by
  have hten : (10 : ℚ) ≠ 0 := by norm_num
  rw [floorOn]
  generalize hnum : x.significand * power 2 x.exponent.toNat * power 10 (-k).toNat = num
  generalize hden : power 10 k.toNat * power 2 (-x.exponent).toNat = den
  have hpos : 0 < den := by
    rw [← hden]
    exact Nat.mul_pos (power_pos (by decide) _) (power_pos (by decide) _)
  have hquot : magnitude x.pattern = num / den * 10 ^ k := by
    rw [← significand_mul, ← hnum, ← hden, zpow_eq_div two_ne_zero, zpow_eq_div hten]
    simp only [power_eq_pow]
    push_cast
    field_simp
  have hk : (0 : ℚ) < 10 ^ k := by positivity
  rw [hquot]
  constructor
  · exact mul_le_mul_of_nonneg_right Nat.cast_div_le hk.le
  · refine mul_lt_mul_of_pos_right ?_ hk
    rw [div_lt_iff₀ (by exact_mod_cast hpos), mul_comm]
    exact_mod_cast Nat.lt_mul_div_succ num hpos

/-- A hit on the grid is in the interval. -/
theorem holds_of_onGrid? {k : ℤ} {d : Nat} (h : x.onGrid? k = some d) :
    x.interval.holds d k = true := by
  unfold onGrid? at h
  dsimp only at h
  split at h
  · split at h <;> (cases h; assumption)
  · cases h
    assumption
  · cases h
    assumption
  · cases h

theorem onGrid?_isSome {k : ℤ} (h : x.interval.holds (x.floorOn k) k = true ∨
    x.interval.holds (x.floorOn k + 1) k = true) : (x.onGrid? k).isSome := by
  unfold onGrid?
  dsimp only
  split <;> simp_all

/-- A grid that is finer than the interval is wide has a hit. -/
theorem onGrid?_isSome_of_fine (hx : x.pattern ≠ 0) {k : ℤ}
    (h : 10 ^ 16 * 10 ^ k ≤ magnitude x.pattern) : (x.onGrid? k).isSome := by
  obtain ⟨s, hs⟩ := Nat.exists_eq_add_one_of_ne_zero hx
  obtain ⟨hfloor, hceil⟩ := floorOn_spec x k
  have hwidth := magnitude_lt_width hs
  have hlow : midway s < magnitude x.pattern := hs ▸ midway_lt_magnitude s
  have hhigh := magnitude_lt_midway x.pattern
  refine onGrid?_isSome ?_
  by_cases hbelow : midway s < x.floorOn k * 10 ^ k
  · exact .inl (holds_of_between hs hbelow (by linarith))
  · refine .inr (holds_of_between hs (by linarith) ?_)
    -- Else the interval would lie between the two neighbours on the grid.
    rw [Nat.cast_succ] at hceil ⊢
    linarith

/-! ### Decimal logarithms -/

/-- A power of ten is at most that of two if their logarithms are seen to be by a fraction near
to the quotient of the bases' own. -/
theorem ten_zpow_le_two_zpow {a b : Nat} (hb : 0 < b) {i j : ℤ}
    (hbases : ((10 : ℚ) ^ a) ^ j ≤ (2 ^ b) ^ j) (h : b * i ≤ a * j) : (10 : ℚ) ^ i ≤ 2 ^ j := by
  refine le_of_pow_le_pow_left₀ hb.ne' (by positivity) ?_
  calc ((10 : ℚ) ^ i) ^ b = 10 ^ (b * i) := by rw [← zpow_natCast, ← zpow_mul, mul_comm]
    _ ≤ 10 ^ (a * j) := zpow_le_zpow_right₀ (by norm_num) h
    _ = (10 ^ a) ^ j := by rw [zpow_mul, zpow_natCast]
    _ ≤ (2 ^ b) ^ j := hbases
    _ = (2 ^ j) ^ b := by rw [← zpow_natCast, ← zpow_natCast, ← zpow_mul, ← zpow_mul, mul_comm]

/-- The guess is one too great at most. -/
theorem ten_zpow_guess_le {i j : ℤ} (hj : -1074 ≤ j ∧ j ≤ 1023)
    (h : 100000 * i ≤ 30103 * j) : (10 : ℚ) ^ (i - 1) ≤ 2 ^ j := by
  rcases Int.le_total 0 j with hnonneg | hneg
  · refine ten_zpow_le_two_zpow (a := 3) (b := 10) (by decide) ?_ (by omega)
    exact zpow_le_zpow_left₀ hnonneg (by norm_num) (by norm_num)
  · refine ten_zpow_le_two_zpow (a := 16) (b := 53) (by decide) ?_ (by omega)
    obtain ⟨n, rfl⟩ : ∃ n : Nat, j = -n := ⟨(-j).toNat, by omega⟩
    rw [zpow_neg, zpow_neg, zpow_natCast, zpow_natCast]
    exact inv_anti₀ (by positivity) (pow_le_pow_left₀ (by norm_num) (by norm_num) n)

theorem ten_zpow_decimalLog_le (hx : x.pattern ≠ 0) :
    (10 : ℚ) ^ x.decimalLog ≤ magnitude x.pattern := by
  have hreached : ∀ i, decimalLeBinary 1 i x.significand x.exponent = true ↔
      (10 : ℚ) ^ i ≤ magnitude x.pattern := fun i => by
    rw [decimalLeBinary_iff, significand_mul, Nat.cast_one, one_mul]
  rw [decimalLog]
  split
  · rename_i h
    exact (hreached _).1 h
  · split
    · rename_i h
      exact (hreached _).1 h
    · have hpos := significand_pos hx
      have hlog : x.significand.log2 < 53 := (Nat.log2_lt hpos.ne').2 (significand_lt x)
      have hexponent := exponent_eq x
      have hfinite : x.pattern / power 2 52 < 2047 := by
        have := x.finite
        rw [magnitudeCount, power_52] at *
        omega
      have hreach : (2 : ℚ) ^ ((x.significand.log2 : ℤ) + x.exponent) ≤ magnitude x.pattern := by
        rw [zpow_add₀ two_ne_zero, ← significand_mul]
        exact mul_le_mul_of_nonneg_right (two_zpow_log2 hpos).1 (by positivity)
      exact (ten_zpow_guess_le (by omega) (by omega)).trans hreach

/-! ### The search -/

/-- The seventeenth grid has a hit, so the search stops there or before. -/
theorem holds_shortestFrom (hx : x.pattern ≠ 0) {tries count : Nat} (h : count + tries = 17) :
    x.interval.holds (shortestFrom x x.decimalLog (tries + 1) count).digits
      (shortestFrom x x.decimalLog (tries + 1) count).exponent = true := by
  induction tries generalizing count with
  | zero =>
    obtain rfl : count = 17 := h
    have hfine : (10 : ℚ) ^ 16 * 10 ^ (x.decimalLog + 1 - (17 : Nat)) ≤ magnitude x.pattern := by
      have hexponent : (16 : Nat) + (x.decimalLog + 1 - (17 : Nat)) = x.decimalLog := by omega
      rw [← zpow_natCast, ← zpow_add₀ (by norm_num), hexponent]
      exact ten_zpow_decimalLog_le hx
    obtain ⟨d, hd⟩ := Option.isSome_iff_exists.1 (onGrid?_isSome_of_fine hx hfine)
    rw [shortestFrom, hd]
    exact holds_of_onGrid? hd
  | succ tries ih =>
    rw [shortestFrom]
    split
    · rename_i d hd
      exact holds_of_onGrid? hd
    · exact ih (by omega)

/-- The shortest digits are read back to the double. -/
theorem nearest_shortest (x : Double) :
    Nearest (x.shortest.digits * 10 ^ x.shortest.exponent) x.pattern := by
  rw [shortest]
  split
  · rename_i hzero
    rw [hzero, Nat.cast_zero, zero_mul, ← magnitude_zero]
    exact nearest_magnitude 0
  · rename_i hx
    exact nearest_of_holds hx (holds_shortestFrom hx rfl)

end Screens.Double
