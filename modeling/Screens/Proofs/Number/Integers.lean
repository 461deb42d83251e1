import Mathlib.Tactic.NormNum
import Screens.Json.Basic
import Screens.Proofs.Number.Nearest
import Screens.Proofs.Number.Written

/-! Integers as doubles.

The double nearest to an integer is the integer rounded to 53 binary digits
(`value_toDouble`). Up to `2 ^ 53` that is the integer itself (`rounded_eq_self`), and
rounding never turns the order of two integers round (`rounded_le_rounded`), but above it may
bring them together. -/
namespace Screens.Number

open Double (Nearest magnitude nearestPattern magnitude_strictMono)

/-- A natural number rounded to its first 53 binary digits, a half to the even neighbour. -/
def roundedNat (k : Nat) : Nat :=
  let unit := power 2 (k.log2 - 52)
  unit * Double.divNearestEven k unit

/-- An integer rounded to the first 53 binary digits of its magnitude. -/
def rounded (n : Int) : Int := n.sign * roundedNat n.natAbs

theorem divNearestEven_one (k : Nat) : Double.divNearestEven k 1 = k := by
  simp [Double.divNearestEven, Nat.mod_one]

theorem roundedNat_eq_self {k : Nat} (h : k ≤ 2 * power 2 52) : roundedNat k = k := by
  rcases Nat.lt_or_eq_of_le h with hlt | rfl
  · have hlog : k.log2 - 52 = 0 := by
      rcases Nat.eq_zero_or_pos k with rfl | hk
      · rfl
      · have : k.log2 < 53 := (Nat.log2_lt hk.ne').2 hlt
        omega
    have hunit : power 2 0 = 1 := rfl
    rw [roundedNat, hlog, hunit, divNearestEven_one, Nat.one_mul]
  · decide +kernel

/-- A natural number with few digits is a magnitude. -/
theorem exists_magnitude {k : Nat} (hk : 0 < k) (h : k.log2 ≤ 52) : ∃ p, magnitude p = k := by
  have hlow : 2 ^ k.log2 * 2 ^ (52 - k.log2) ≤ k * 2 ^ (52 - k.log2) :=
    Nat.mul_le_mul_right _ (Nat.log2_self_le hk.ne')
  have hhigh : k * 2 ^ (52 - k.log2) ≤ 2 ^ (k.log2 + 1) * 2 ^ (52 - k.log2) :=
    Nat.mul_le_mul_right _ Nat.lt_log2_self.le
  have hbits : k.log2 + (52 - k.log2) = 52 := by omega
  rw [← pow_add, hbits] at hlow
  rw [← pow_add, Nat.add_right_comm, hbits] at hhigh
  refine ⟨(1022 + k.log2) * power 2 52 + k * 2 ^ (52 - k.log2), ?_⟩
  rw [Double.magnitude_of_parts (.inr hlow) hhigh]
  have hexponent : ((1022 + k.log2 : Nat) : ℤ) - 1074 = -((52 - k.log2 : Nat) : ℤ) := by omega
  rw [hexponent, zpow_neg, zpow_natCast]
  push_cast
  exact mul_inv_cancel_right₀ (by positivity) _

theorem nearest_natCast (k : Nat) : Nearest k (nearestPattern k 1) := by
  simpa using Double.nearest_nearestPattern k Nat.one_pos

/-- Of a number of more than 53 digits the unit of the last one kept is `2 ^ n`. -/
theorem magnitude_nearestPattern_of_ge {k : Nat} (h : 2 * power 2 52 ≤ k) :
    magnitude (nearestPattern k 1) = roundedNat k := by
  have hk : 0 < k := Nat.lt_of_lt_of_le (by decide) h
  have hlog : 53 ≤ k.log2 := (Nat.le_log2 hk.ne').2 h
  obtain ⟨n, hn⟩ : ∃ n, k.log2 = 52 + n := ⟨k.log2 - 52, by omega⟩
  have hlow : 2 ^ 52 * 2 ^ n ≤ k := by
    rw [← pow_add, ← hn]
    exact Nat.log2_self_le hk.ne'
  have hhigh : k < 2 ^ 53 * 2 ^ n := by
    have hnext : 53 + n = k.log2 + 1 := by omega
    rw [← pow_add, hnext]
    exact Nat.lt_log2_self
  have hpos : (0 : ℚ) < ((2 ^ n : Nat) : ℚ) := by positivity
  have hscale : (2 : ℚ) ^ (((1074 + n : Nat) : ℤ) - 1074) = (2 ^ n : Nat) := by
    have hexponent : ((1074 + n : Nat) : ℤ) - 1074 = n := by omega
    rw [hexponent, zpow_natCast]
    exact (Nat.cast_pow 2 n).symm
  have hrounds : Double.Rounds (k / (2 ^ n : Nat)) (Double.divNearestEven k (2 ^ n)) :=
    Double.rounds_divNearestEven k (Nat.two_pow_pos n)
  have hless : (k : ℚ) / (2 ^ n : Nat) < (2 * power 2 52 : Nat) := by
    rw [div_lt_iff₀ hpos]
    exact_mod_cast hhigh
  have hleast : 1074 + n = 0 ∨ ((power 2 52 : Nat) : ℚ) ≤ k / (2 ^ n : Nat) := by
    rw [le_div_iff₀ hpos]
    exact .inr (by exact_mod_cast hlow)
  have hnearest := Double.nearest_of_rounds hrounds hless hleast
  rw [hscale, div_mul_cancel₀ _ hpos.ne'] at hnearest
  rw [(nearest_natCast k).unique hnearest, Double.magnitude_of_rounds hrounds hless hleast, hscale,
    roundedNat, hn, Nat.add_sub_cancel_left]
  show _ = ((2 ^ n * Double.divNearestEven k (2 ^ n) : Nat) : ℚ)
  rw [Nat.cast_mul, mul_comm]

/-- What is nearest to a natural number is the number rounded. -/
theorem magnitude_nearestPattern (k : Nat) : magnitude (nearestPattern k 1) = roundedNat k := by
  rcases Nat.lt_or_ge k (2 * power 2 52) with hlt | hge
  · rw [roundedNat_eq_self hlt.le]
    rcases Nat.eq_zero_or_pos k with rfl | hk
    · exact Double.magnitude_zero
    · have hlog : k.log2 < 53 := (Nat.log2_lt hk.ne').2 hlt
      obtain ⟨p, hp⟩ := exists_magnitude hk (by omega)
      have hnearest : Nearest k p := hp ▸ Double.nearest_magnitude p
      rw [(nearest_natCast k).unique hnearest, hp]
  · exact magnitude_nearestPattern_of_ge hge

theorem roundedNat_le_roundedNat {j k : Nat} (h : j ≤ k) : roundedNat j ≤ roundedNat k := by
  have hcast : (j : ℚ) ≤ k := by exact_mod_cast h
  have hpattern := (nearest_natCast j).le_of_le (nearest_natCast k) hcast
  have hmag := magnitude_strictMono.monotone hpattern
  rw [magnitude_nearestPattern, magnitude_nearestPattern] at hmag
  exact_mod_cast hmag

theorem rounded_natCast (k : Nat) : rounded k = roundedNat k := by
  rw [rounded, Int.natAbs_natCast]
  rcases Nat.eq_zero_or_pos k with rfl | hk
  · rfl
  · rw [Int.sign_natCast_of_ne_zero hk.ne', one_mul]

theorem rounded_neg (n : Int) : rounded (-n) = -rounded n := by
  rw [rounded, rounded, Int.sign_neg, Int.natAbs_neg, neg_mul]

/-- Rounding keeps the order, but for what it brings together. -/
theorem rounded_le_rounded {n m : Int} (h : n ≤ m) : rounded n ≤ rounded m := by
  obtain ⟨j, rfl | rfl⟩ := n.eq_nat_or_neg <;> obtain ⟨k, rfl | rfl⟩ := m.eq_nat_or_neg
  · rw [rounded_natCast, rounded_natCast]
    exact_mod_cast roundedNat_le_roundedNat (by exact_mod_cast h)
  · obtain ⟨rfl, rfl⟩ : j = 0 ∧ k = 0 := by omega
    rfl
  · rw [rounded_neg, rounded_natCast, rounded_natCast]
    omega
  · rw [rounded_neg, rounded_neg, rounded_natCast, rounded_natCast]
    have hle : k ≤ j := by omega
    have := roundedNat_le_roundedNat hle
    omega

theorem rounded_eq_self {n : Int} (h : n.natAbs ≤ 2 * power 2 52) : rounded n = n := by
  rw [rounded, roundedNat_eq_self h, Int.sign_mul_natAbs]

/-- Integers of 64 bits are far from the largest double. -/
theorem nearestPattern_lt {k : Nat} (h : k ≤ 18446744073709551616) :
    nearestPattern k 1 < magnitudeCount := by
  have hbound : magnitude (1086 * power 2 52 + power 2 52) = 18446744073709551616 := by
    rw [Double.magnitude_of_parts (.inr le_rfl) (by decide), Double.power_52]
    norm_num
  have hcast : (k : ℚ) ≤ magnitude (1086 * power 2 52 + power 2 52) := by
    rw [hbound]
    exact_mod_cast h
  have hle := (nearest_natCast k).le_of_le (Double.nearest_magnitude _) hcast
  exact Nat.lt_of_le_of_lt hle (by decide)

theorem toDouble_integer (n : Int) (range : InRange n) :
    ∃ h, (integer n range).toDouble = ⟨decide (n < 0), nearestPattern n.natAbs 1, h⟩ := by
  have hpattern : nearestPattern n.natAbs 1 < magnitudeCount :=
    nearestPattern_lt (by have := range.1; have := range.2; omega)
  refine ⟨hpattern, ?_⟩
  rw [toDouble, Double.ofInt?, Double.ofRatio?, dif_pos hpattern, Option.getD_some]

/-- The double nearest to an integer is the integer rounded. -/
theorem value_toDouble (n : Int) (range : InRange n) :
    (integer n range).toDouble.value = rounded n := by
  obtain ⟨_, htoDouble⟩ := toDouble_integer n range
  have hvalue : (integer n range).toDouble.value =
      if n < 0 then -(roundedNat n.natAbs : ℚ) else roundedNat n.natAbs := by
    rw [htoDouble, ← magnitude_nearestPattern]
    simp only [Double.value, decide_eq_true_eq]
  rw [hvalue]
  split
  · rename_i hneg
    rw [rounded, Int.sign_eq_neg_one_of_neg hneg]
    push_cast
    ring
  · rename_i hnonneg
    obtain ⟨k, rfl⟩ := Int.eq_ofNat_of_zero_le (not_lt.1 hnonneg)
    rw [rounded_natCast, Int.natAbs_natCast, Int.cast_natCast]

/-- The ranks of the nearest doubles are in the order of the integers rounded. -/
theorem rank_toDouble_lt {n m : Int} (hn : InRange n) (hm : InRange m) :
    (integer n hn).toDouble.rank < (integer m hm).toDouble.rank ↔ rounded n < rounded m := by
  rw [← Double.value_lt_value, value_toDouble, value_toDouble, Int.cast_lt]

/-- An integer of 64 bits that is written in decimal is read as its nearest double. -/
theorem ofChars?_of_writes {cs : List Char} {n : Int} (h : Numeral.Writes cs n)
    (range : InRange n) :
    ∃ x, Numeral.ofChars? cs = some (.finite x) ∧ x.rank = (integer n range).toDouble.rank := by
  obtain ⟨negative, hread, hsign⟩ := h.ofChars?
  have hbound : n.natAbs ≤ 18446744073709551616 := by
    obtain ⟨hlow, hhigh⟩ := range
    omega
  have hpattern := nearestPattern_lt hbound
  refine ⟨⟨negative, nearestPattern n.natAbs 1, hpattern⟩, ?_, ?_⟩
  · have hnearest : Double.Nearest (n.natAbs * 10 ^ (0 : ℤ)) (nearestPattern n.natAbs 1) := by
      rw [zpow_zero, mul_one]
      exact nearest_natCast n.natAbs
    rw [hread, Numeral.ofDecimal_of_nearest negative hnearest hpattern]
  · obtain ⟨_, htoDouble⟩ := toDouble_integer n range
    rw [htoDouble]
    by_cases hzero : n = 0
    · subst hzero
      cases negative <;> rfl
    · rw [hsign hzero]

end Screens.Number
