import Mathlib.Algebra.Order.Field.Power
import Mathlib.Data.Rat.Cast.Order
import Mathlib.Order.Monotone.Basic
import Mathlib.Tactic.Linarith
import Mathlib.Tactic.Positivity
import Mathlib.Tactic.Ring
import Screens.Number.Double

/-! Magnitudes of doubles as rational numbers.

Patterns count the magnitudes upwards: a pattern is an exponent and a significand
(`exists_parts`), the next one has the next significand (`units_succ`), and so magnitudes grow
with their patterns (`magnitude_strictMono`) and numbers with their ranks
(`value_lt_value`). -/
namespace Screens.Double

theorem power_52 : power 2 52 = 4503599627370496 := rfl

theorem power_eq_pow (base n : Nat) : power base n = base ^ n := rfl

/-- The magnitude of a pattern as a multiple of the least positive one. -/
def units (p : Nat) : Nat :=
  if p < power 2 52 then p
  else (power 2 52 + p % power 2 52) * power 2 (p / power 2 52 - 1)

/-- The least positive magnitude. -/
def unit : ℚ := 2 ^ (-1074 : ℤ)

/-- The magnitude of a pattern; those past the finite ones go on in the same way. -/
def magnitude (p : Nat) : ℚ := units p * unit

theorem unit_pos : 0 < unit := by
  rw [unit]
  positivity

theorem two_zpow_sub (e : Nat) : (2 : ℚ) ^ ((e : ℤ) - 1074) = 2 ^ e * unit := by
  rw [sub_eq_add_neg, zpow_add₀ (by norm_num), zpow_natCast, unit]

/-- A significand, of 53 bits where the exponent is not the least, and the exponent. -/
theorem units_of_parts {e m : Nat} (hleast : e = 0 ∨ power 2 52 ≤ m) (hm : m ≤ 2 * power 2 52) :
    units (e * power 2 52 + m) = m * 2 ^ e := by
  rw [power_52] at hleast hm
  rw [units, power_52, power_eq_pow]
  split
  · obtain rfl : e = 0 := by omega
    omega
  · rcases Nat.lt_or_ge m 4503599627370496 with hsmall | hlarge
    · omega
    · rcases Nat.lt_or_eq_of_le hm with hlt | rfl
      · have hquot : (e * 4503599627370496 + m) / 4503599627370496 - 1 = e := by omega
        have hrem : 4503599627370496 + (e * 4503599627370496 + m) % 4503599627370496 = m := by omega
        rw [hquot, hrem]
      · -- The significand has run over into the next exponent.
        have hquot : (e * 4503599627370496 + 2 * 4503599627370496) / 4503599627370496 - 1 = e + 1 := by
          omega
        have hrem : (e * 4503599627370496 + 2 * 4503599627370496) % 4503599627370496 = 0 := by omega
        rw [hquot, hrem, pow_succ]
        ring

theorem exists_parts (p : Nat) : ∃ e m, p = e * power 2 52 + m ∧ (e = 0 ∨ power 2 52 ≤ m) ∧
    m < 2 * power 2 52 ∧ e = p / power 2 52 - 1 := by
  rw [power_52]
  exact ⟨p / 4503599627370496 - 1, p - (p / 4503599627370496 - 1) * 4503599627370496,
    by omega, by omega, by omega, rfl⟩

theorem units_succ (p : Nat) : units (p + 1) = units p + 2 ^ (p / power 2 52 - 1) := by
  obtain ⟨e, m, hp, hleast, hm, he⟩ := exists_parts p
  have hnext : p + 1 = e * power 2 52 + (m + 1) := by omega
  rw [← he, hnext, units_of_parts (hleast.imp_right fun h => by omega) (by omega), hp,
    units_of_parts hleast (by omega)]
  ring

theorem units_strictMono : StrictMono units := by
  refine strictMono_nat_of_lt_succ fun p => ?_
  rw [units_succ]
  exact Nat.lt_add_of_pos_right (by positivity)

theorem magnitude_strictMono : StrictMono magnitude := by
  intro p q h
  have hunits : (units p : ℚ) < units q := by exact_mod_cast units_strictMono h
  exact mul_lt_mul_of_pos_right hunits unit_pos

theorem magnitude_zero : magnitude 0 = 0 := by
  have hzero : units 0 = 0 := rfl
  rw [magnitude, hzero, Nat.cast_zero, zero_mul]

theorem magnitude_nonneg (p : Nat) : 0 ≤ magnitude p :=
  magnitude_zero ▸ magnitude_strictMono.monotone (Nat.zero_le p)

theorem magnitude_of_parts {e m : Nat} (hleast : e = 0 ∨ power 2 52 ≤ m)
    (hm : m ≤ 2 * power 2 52) :
    magnitude (e * power 2 52 + m) = m * 2 ^ ((e : ℤ) - 1074) := by
  rw [magnitude, units_of_parts hleast hm, two_zpow_sub]
  push_cast
  ring

/-- The magnitude next to the greatest double's. -/
theorem magnitude_magnitudeCount : magnitude magnitudeCount = 2 ^ 1024 := by
  have hparts : magnitudeCount = 2046 * power 2 52 + power 2 52 := rfl
  have hcast : ((power 2 52 : Nat) : ℚ) = 2 ^ 52 := by
    rw [power_52]
    norm_num
  have hexponent : ((2046 : Nat) : ℤ) - 1074 = (972 : Nat) := rfl
  rw [hparts, magnitude_of_parts (.inr le_rfl) (by decide), hcast, hexponent, zpow_natCast,
    ← pow_add]

theorem magnitude_succ (p : Nat) :
    magnitude (p + 1) = magnitude p + 2 ^ (((p / power 2 52 - 1 : Nat) : ℤ) - 1074) := by
  rw [magnitude, magnitude, units_succ, two_zpow_sub]
  push_cast
  ring

/-! ### Numbers -/

/-- The number a double is. -/
def value (x : Double) : ℚ := if x.negative then -magnitude x.pattern else magnitude x.pattern

theorem exponent_eq (x : Double) :
    x.exponent = ((x.pattern / power 2 52 - 1 : Nat) : ℤ) - 1074 := by
  rw [exponent, power_52]
  split <;> omega

theorem significand_mul (x : Double) :
    (x.significand : ℚ) * 2 ^ x.exponent = magnitude x.pattern := by
  rw [magnitude, units, significand, exponent_eq, two_zpow_sub]
  split
  · rename_i h
    rw [Nat.div_eq_of_lt h]
    ring
  · rw [power_eq_pow 2 (_ - 1)]
    push_cast
    ring

/-- Numbers are in the order of their ranks. -/
theorem value_lt_value {x y : Double} : x.value < y.value ↔ x.rank < y.rank := by
  have hlt : ∀ p q, magnitude p < magnitude q ↔ p < q := fun _ _ => magnitude_strictMono.lt_iff_lt
  have hx := magnitude_nonneg x.pattern
  have hy := magnitude_nonneg y.pattern
  unfold value rank
  cases x.negative <;> cases y.negative
  · simp [hlt]
  · simp only [Bool.false_eq_true, if_false, if_true]
    constructor <;> intro h
    · linarith
    · omega
  · -- One of them is not zero.
    have hpos : ∀ p, 0 < magnitude p ↔ 0 < p := fun p => magnitude_zero ▸ hlt 0 p
    have hzero : ∀ p, ¬ 0 < p → magnitude p = 0 := fun p hp => by
      rw [Nat.eq_zero_of_not_pos hp, magnitude_zero]
    simp only [Bool.false_eq_true, if_false, if_true]
    constructor
    · intro h
      by_cases hp : 0 < x.pattern
      · omega
      · rw [hzero _ hp, neg_zero, hpos] at h
        omega
    · intro h
      rcases Nat.eq_zero_or_pos x.pattern with hp | hp
      · have := (hpos y.pattern).2 (by omega)
        linarith
      · have := (hpos x.pattern).2 hp
        linarith
  · simp [hlt]

end Screens.Double
