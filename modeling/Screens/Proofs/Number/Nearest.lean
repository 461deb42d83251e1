import Mathlib.Algebra.Order.Floor.Ring
import Mathlib.Tactic.FieldSimp
import Screens.Proofs.Number.Magnitude

/-! The nearest double.

A quotient is rounded to the pattern whose magnitude is nearest, of two equally near to the
even one (`nearest_nearestPattern`). A positive number has one nearest pattern, and greater
numbers have no lesser ones (`Nearest.le_of_le`), so the rounding depends on the number
alone, not on how it is written as a quotient, and keeps the order. -/
namespace Screens.Double

/-- Where the magnitude of a pattern and that of the next one are equally near. -/
def midway (p : Nat) : ℚ := (magnitude p + magnitude (p + 1)) / 2

theorem midway_strictMono : StrictMono midway := by
  intro p q h
  have hleft := magnitude_strictMono h
  have hright := magnitude_strictMono (Nat.add_lt_add_right h 1)
  rw [midway, midway]
  linarith

/-- No magnitude is nearer to the number, and where another is as near the pattern is even. -/
structure Nearest (v : ℚ) (p : Nat) : Prop where
  le : v ≤ midway p
  ge : ∀ q < p, midway q ≤ v
  even : (v = midway p ∨ ∃ q < p, v = midway q) → p % 2 = 0

/-- Rounding keeps the order of numbers. -/
theorem Nearest.le_of_le {v w : ℚ} {p q : Nat} (hv : Nearest v p) (hw : Nearest w q)
    (h : v ≤ w) : p ≤ q := by
  rcases Nat.lt_or_ge q p with hlt | hle
  · -- Between the two there is nothing but the place midway, and that goes to one of them.
    have hmid := hv.ge q hlt
    have hv' : v = midway q := by linarith [hw.le]
    have hw' : w = midway q := by linarith [hw.le]
    have hp := hv.even (.inr ⟨q, hlt, hv'⟩)
    have hq := hw.even (.inl hw')
    have hbelow := hv.ge (q + 1) (by omega)
    have := midway_strictMono (Nat.lt_succ_self q)
    rw [hv'] at hbelow
    exact absurd hbelow (not_le.2 this)
  · exact hle

theorem Nearest.unique {v : ℚ} {p q : Nat} (hp : Nearest v p) (hq : Nearest v q) : p = q :=
  Nat.le_antisymm (hp.le_of_le hq le_rfl) (hq.le_of_le hp le_rfl)

/-- The places midway to the two neighbours are enough to look at. -/
theorem Nearest.of_neighbours {v : ℚ} {p : Nat} (hle : v ≤ midway p)
    (hge : ∀ s, p = s + 1 → midway s ≤ v)
    (heven : (v = midway p ∨ ∃ s, p = s + 1 ∧ v = midway s) → p % 2 = 0) : Nearest v p := by
  have hbelow : ∀ q < p, midway q ≤ v ∧ (v = midway q → p = q + 1) := by
    intro q hq
    obtain ⟨s, rfl⟩ : ∃ s, p = s + 1 := ⟨p - 1, by omega⟩
    have hs := hge s rfl
    rcases Nat.lt_or_eq_of_le (Nat.le_of_lt_succ hq) with hlt | rfl
    · have := midway_strictMono hlt
      exact ⟨by linarith, fun h => by linarith⟩
    · exact ⟨hs, fun _ => rfl⟩
  refine ⟨hle, fun q hq => (hbelow q hq).1, fun h => heven (h.imp_right ?_)⟩
  rintro ⟨q, hq, h⟩
  exact ⟨q, (hbelow q hq).2 h, h⟩

theorem midway_zero : midway 0 = 2 ^ (-1075 : ℤ) := by
  have hone : magnitude 1 = unit := by
    have hunits : units 1 = 1 := rfl
    rw [magnitude, hunits, Nat.cast_one, one_mul]
  have hexponent : (-1075 : ℤ) = -1074 - 1 := rfl
  rw [midway, magnitude_zero, hone, zero_add, hexponent, zpow_sub_one₀ two_ne_zero]
  rfl

theorem midway_lt_magnitude (p : Nat) : midway p < magnitude (p + 1) := by
  have := magnitude_strictMono (Nat.lt_succ_self p)
  rw [midway]
  linarith

theorem magnitude_lt_midway (p : Nat) : magnitude p < midway p := by
  have := magnitude_strictMono (Nat.lt_succ_self p)
  rw [midway]
  linarith

/-- A magnitude is its own nearest. -/
theorem nearest_magnitude (p : Nat) : Nearest (magnitude p) p := by
  refine .of_neighbours (magnitude_lt_midway p).le ?_ ?_
  · rintro s rfl
    exact (midway_lt_magnitude s).le
  · rintro (h | ⟨s, rfl, h⟩)
    · exact absurd h (magnitude_lt_midway p).ne
    · exact absurd h (midway_lt_magnitude s).ne'

/-! ### Quotients -/

/-- The natural number is at most half away, and even if it is just that. -/
structure Rounds (v : ℚ) (m : Nat) : Prop where
  le : v ≤ m + 1 / 2
  ge : (m : ℚ) - 1 / 2 ≤ v
  even : (v = m + 1 / 2 ∨ v = m - 1 / 2) → m % 2 = 0

namespace Rounds

variable {v : ℚ} {m : Nat} (h : Rounds v m) {bound : Nat}

include h

theorem le_of_lt (hv : v < bound) : m ≤ bound := by
  have hge := h.ge
  have hcast : (m : ℚ) < (bound + 1 : Nat) := by
    push_cast
    linarith
  exact Nat.le_of_lt_succ (by exact_mod_cast hcast)

theorem ge_of_le (hv : bound ≤ v) : bound ≤ m := by
  have hle := h.le
  have hcast : (bound : ℚ) < (m + 1 : Nat) := by
    push_cast
    linarith
  exact Nat.le_of_lt_succ (by exact_mod_cast hcast)

end Rounds

theorem rounds_divNearestEven (num : Nat) {den : Nat} (hden : 0 < den) :
    Rounds (num / den) (divNearestEven num den) := by
  have hd : (0 : ℚ) < den := by exact_mod_cast hden
  have hv : (num : ℚ) / den = (num / den : Nat) + ((num % den : Nat) : ℚ) / den := by
    have h : (num : ℚ) = den * (num / den : Nat) + (num % den : Nat) := by
      exact_mod_cast (Nat.div_add_mod num den).symm
    rw [h]
    field_simp
  have hpos : (0 : ℚ) ≤ ((num % den : Nat) : ℚ) / den := by positivity
  have hone : ((num % den : Nat) : ℚ) / den < 1 := by
    rw [div_lt_one hd]
    exact_mod_cast Nat.mod_lt num hden
  have hlt : ((num % den : Nat) : ℚ) / den < 1 / 2 ↔ 2 * (num % den) < den := by
    rw [div_lt_iff₀ hd, div_mul_eq_mul_div, lt_div_iff₀ two_pos, one_mul, mul_comm]
    exact_mod_cast Iff.rfl
  have hgt : 1 / 2 < ((num % den : Nat) : ℚ) / den ↔ den < 2 * (num % den) := by
    rw [lt_div_iff₀ hd, div_mul_eq_mul_div, div_lt_iff₀ two_pos, one_mul, mul_comm _ (2 : ℚ)]
    exact_mod_cast Iff.rfl
  rw [hv]
  unfold divNearestEven
  generalize num / den = q at *
  generalize ((num % den : Nat) : ℚ) / den = r at *
  dsimp only
  have hup : ((q + 1 : Nat) : ℚ) = q + 1 := Nat.cast_succ q
  split
  · rename_i hsmall
    have := hlt.2 hsmall
    exact ⟨by linarith, by linarith, by rintro (h | h) <;> linarith⟩
  · rename_i hsmall
    have hge := not_lt.1 fun h => hsmall (hlt.1 h)
    split
    · rename_i hlarge
      have := hgt.2 hlarge
      exact ⟨by linarith, by linarith, by rintro (h | h) <;> linarith⟩
    · rename_i hlarge
      have hle := not_lt.1 fun h => hlarge (hgt.1 h)
      split
      · rename_i heven
        exact ⟨by linarith, by linarith, fun _ => heven⟩
      · exact ⟨by linarith, by linarith, fun _ => by omega⟩

theorem midway_eq (p : Nat) :
    midway p = magnitude p + 2 ^ (((p / power 2 52 - 1 : Nat) : ℤ) - 1074) / 2 := by
  rw [midway, magnitude_succ]
  ring

section Significand

/- A number of so many units of an exponent is rounded to a significand, of 53 bits where the
exponent is not the least. -/
variable {w : ℚ} {e m : Nat} (hm : Rounds w m) (hless : w < (2 * power 2 52 : Nat))
  (hleast : e = 0 ∨ (power 2 52 : Nat) ≤ w)

include hm hless hleast

theorem magnitude_of_rounds :
    magnitude (e * power 2 52 + m) = m * 2 ^ ((e : ℤ) - 1074) :=
  magnitude_of_parts (hleast.imp_right hm.ge_of_le) (hm.le_of_lt hless)

/-- Upwards the gap is that of the exponent, or the next one's after a carry. -/
theorem le_midway_of_rounds :
    w * 2 ^ ((e : ℤ) - 1074) ≤ midway (e * power 2 52 + m) ∧
      (w * 2 ^ ((e : ℤ) - 1074) = midway (e * power 2 52 + m) → m % 2 = 0) := by
  have hmost := hm.le_of_lt hless
  have hbits := hleast.imp_right hm.ge_of_le
  have hmag := magnitude_of_rounds hm hless hleast
  obtain ⟨hle, -, heven⟩ := hm
  have hpos : (0 : ℚ) < 2 ^ ((e : ℤ) - 1074) := by positivity
  have hgap : (e * power 2 52 + m) / power 2 52 - 1 = e ∨
      (m = 2 * power 2 52 ∧ (e * power 2 52 + m) / power 2 52 - 1 = e + 1) := by
    rw [power_52] at *
    omega
  rw [midway_eq, hmag]
  rcases hgap with hgap | ⟨rfl, hgap⟩
  · rw [hgap]
    refine ⟨by nlinarith, fun h => heven (.inl ?_)⟩
    exact mul_right_cancel₀ hpos.ne' (by linarith)
  · have hdouble : (2 : ℚ) ^ (((e + 1 : Nat) : ℤ) - 1074) = 2 * 2 ^ ((e : ℤ) - 1074) := by
      rw [two_zpow_sub, two_zpow_sub, pow_succ]
      ring
    rw [hgap, hdouble]
    exact ⟨by nlinarith, fun _ => Nat.mul_mod_right 2 _⟩

/-- Downwards it is the same, or that of the exponent below, which the number does not reach. -/
theorem midway_le_of_rounds {s : Nat} (hs : e * power 2 52 + m = s + 1) :
    midway s ≤ w * 2 ^ ((e : ℤ) - 1074) ∧
      (w * 2 ^ ((e : ℤ) - 1074) = midway s → m % 2 = 0) := by
  have hmost := hm.le_of_lt hless
  have hbits := hleast.imp_right hm.ge_of_le
  have hmag := magnitude_of_rounds hm hless hleast
  obtain ⟨-, hge, heven⟩ := hm
  have hpos : (0 : ℚ) < 2 ^ ((e : ℤ) - 1074) := by positivity
  have hgap : s / power 2 52 - 1 = e ∨ (0 < e ∧ m = power 2 52) := by
    rw [power_52] at *
    omega
  rw [hs] at hmag
  rcases hgap with hgap | ⟨he, rfl⟩
  · rw [magnitude_succ, hgap] at hmag
    rw [midway_eq, hgap]
    refine ⟨by nlinarith, fun h => heven (.inr ?_)⟩
    exact mul_right_cancel₀ hpos.ne' (by linarith)
  · have hlt : midway s < w * 2 ^ ((e : ℤ) - 1074) :=
      calc midway s < magnitude (s + 1) := midway_lt_magnitude s
        _ = (power 2 52 : Nat) * 2 ^ ((e : ℤ) - 1074) := hmag
        _ ≤ w * 2 ^ ((e : ℤ) - 1074) :=
          mul_le_mul_of_nonneg_right (hleast.resolve_left he.ne') hpos.le
    exact ⟨hlt.le, fun h => absurd h hlt.ne'⟩

theorem nearest_of_rounds :
    Nearest (w * 2 ^ ((e : ℤ) - 1074)) (e * power 2 52 + m) := by
  have hparity : m % 2 = 0 → (e * power 2 52 + m) % 2 = 0 := by
    rw [power_52]
    omega
  have hup := le_midway_of_rounds hm hless hleast
  have hdown := fun s hs => midway_le_of_rounds hm hless hleast (s := s) hs
  refine .of_neighbours hup.1 (fun s hs => (hdown s hs).1) fun h => hparity ?_
  rcases h with h | ⟨s, hs, h⟩
  · exact hup.2 h
  · exact (hdown s hs).2 h

end Significand

/-- The length of a number tells between which neighbouring powers of two it is. -/
theorem two_zpow_log2 {n : Nat} (h : 0 < n) :
    (2 : ℚ) ^ (n.log2 : ℤ) ≤ n ∧ (n : ℚ) < 2 ^ ((n.log2 : ℤ) + 1) := by
  rw [← Nat.cast_succ, zpow_natCast, zpow_natCast]
  exact ⟨by exact_mod_cast Nat.log2_self_le h.ne', by exact_mod_cast Nat.lt_log2_self⟩

/-- Whether a quotient reaches a power of two is seen in natural numbers. -/
theorem shifted_le_iff (num : Nat) {den : Nat} (hden : 0 < den) (e : ℤ) :
    (if e ≥ 0 then den <<< e.toNat ≤ num else den ≤ num <<< (-e).toNat) ↔
      (2 : ℚ) ^ e ≤ num / den := by
  have hd : (0 : ℚ) < den := by exact_mod_cast hden
  rw [le_div_iff₀ hd]
  split
  · rename_i h
    obtain ⟨n, rfl⟩ := Int.eq_ofNat_of_zero_le h
    rw [Int.toNat_natCast, Nat.shiftLeft_eq, zpow_natCast, mul_comm]
    exact_mod_cast Iff.rfl
  · rename_i h
    obtain ⟨n, rfl⟩ : ∃ n : Nat, e = -n := ⟨(-e).toNat, by omega⟩
    rw [neg_neg, Int.toNat_natCast, Nat.shiftLeft_eq, zpow_neg, zpow_natCast,
      inv_mul_le_iff₀ (by positivity), mul_comm]
    exact_mod_cast Iff.rfl

/-- The quotient lies between two neighbouring powers. -/
theorem logRatio_spec {num den : Nat} (hnum : 0 < num) (hden : 0 < den) :
    (2 : ℚ) ^ logRatio num den ≤ num / den ∧ (num : ℚ) / den < 2 ^ (logRatio num den + 1) := by
  have hd : (0 : ℚ) < den := by exact_mod_cast hden
  obtain ⟨hnumLe, hnumLt⟩ := two_zpow_log2 hnum
  obtain ⟨hdenLe, hdenLt⟩ := two_zpow_log2 hden
  -- The lengths alone leave two powers to choose from.
  have hlow : (2 : ℚ) ^ ((num.log2 : ℤ) - den.log2 - 1) ≤ num / den := by
    rw [le_div_iff₀ hd]
    calc (2 : ℚ) ^ ((num.log2 : ℤ) - den.log2 - 1) * den
        ≤ 2 ^ ((num.log2 : ℤ) - den.log2 - 1) * 2 ^ ((den.log2 : ℤ) + 1) := by gcongr
      _ = 2 ^ (num.log2 : ℤ) := by
        rw [← zpow_add₀ (by norm_num)]
        congr 1
        ring
      _ ≤ num := hnumLe
  have hhigh : (num : ℚ) / den < 2 ^ ((num.log2 : ℤ) - den.log2 + 1) := by
    rw [div_lt_iff₀ hd]
    calc (num : ℚ) < 2 ^ ((num.log2 : ℤ) + 1) := hnumLt
      _ = 2 ^ ((num.log2 : ℤ) - den.log2 + 1) * 2 ^ (den.log2 : ℤ) := by
        rw [← zpow_add₀ (by norm_num)]
        congr 1
        ring
      _ ≤ 2 ^ ((num.log2 : ℤ) - den.log2 + 1) * den := by gcongr
  unfold logRatio
  dsimp only
  generalize (num.log2 : ℤ) - den.log2 = guess at *
  by_cases h : (2 : ℚ) ^ guess ≤ num / den
  · rw [if_pos ((shifted_le_iff num hden guess).2 h)]
    exact ⟨h, hhigh⟩
  · rw [if_neg (mt (shifted_le_iff num hden guess).1 h), sub_add_cancel]
    exact ⟨hlow, not_le.1 h⟩

/-- The quotient by a power of two, rounded from the exact quotient of natural numbers. -/
theorem rounds_scaled (num : Nat) {den : Nat} (hden : 0 < den) (q : ℤ) :
    Rounds (num / den / 2 ^ q)
      (if q ≥ 0 then divNearestEven num (den <<< q.toNat)
        else divNearestEven (num <<< (-q).toNat) den) := by
  split
  · rename_i h
    obtain ⟨n, rfl⟩ := Int.eq_ofNat_of_zero_le h
    rw [zpow_natCast, Int.toNat_natCast, Nat.shiftLeft_eq, div_div]
    exact_mod_cast rounds_divNearestEven num (Nat.mul_pos hden (Nat.two_pow_pos n))
  · rename_i h
    obtain ⟨n, rfl⟩ : ∃ n : Nat, q = -n := ⟨(-q).toNat, by omega⟩
    rw [neg_neg, Int.toNat_natCast, zpow_neg, zpow_natCast, div_inv_eq_mul, div_mul_eq_mul_div,
      Nat.shiftLeft_eq]
    exact_mod_cast rounds_divNearestEven (num * 2 ^ n) hden

/-- A quotient is rounded to the nearest pattern. -/
theorem nearest_nearestPattern (num : Nat) {den : Nat} (hden : 0 < den) :
    Nearest (num / den) (nearestPattern num den) := by
  rw [nearestPattern]
  split
  · rename_i hzero
    rw [hzero, Nat.cast_zero, zero_div, ← magnitude_zero]
    exact nearest_magnitude 0
  · rename_i hnum
    obtain ⟨hlow, hhigh⟩ := logRatio_spec (Nat.pos_of_ne_zero hnum) hden
    generalize logRatio num den = log at *
    dsimp only
    -- The exponent is as small as 53 bits allow, but not less than the least.
    obtain ⟨e, he⟩ : ∃ e : Nat, max (log - 52) (-1074) = (e : ℤ) - 1074 :=
      ⟨(max (log - 52) (-1074) + 1074).toNat, by omega⟩
    rw [he, sub_add_cancel, Int.toNat_natCast]
    have hm := rounds_scaled num hden ((e : ℤ) - 1074)
    generalize (ite ((e : ℤ) - 1074 ≥ 0) _ _) = m at hm ⊢
    have hpos : (0 : ℚ) < 2 ^ ((e : ℤ) - 1074) := by positivity
    rw [← div_mul_cancel₀ ((num : ℚ) / den) hpos.ne']
    refine nearest_of_rounds hm ?_ ?_
    · rw [div_lt_iff₀ hpos]
      calc (num : ℚ) / den < 2 ^ (log + 1) := hhigh
        _ ≤ 2 ^ (53 + ((e : ℤ) - 1074)) := zpow_le_zpow_right₀ (by norm_num) (by omega)
        _ = (2 * power 2 52 : Nat) * 2 ^ ((e : ℤ) - 1074) := by
          rw [zpow_add₀ (by norm_num), power_52]
          norm_num
    · by_cases hleast : e = 0
      · exact .inl hleast
      · right
        rw [le_div_iff₀ hpos]
        calc ((power 2 52 : Nat) : ℚ) * 2 ^ ((e : ℤ) - 1074) = 2 ^ (52 + ((e : ℤ) - 1074)) := by
              rw [zpow_add₀ (by norm_num), power_52]
              norm_num
          _ ≤ 2 ^ log := zpow_le_zpow_right₀ (by norm_num) (by omega)
          _ ≤ num / den := hlow

theorem ofRatio?_of_nearest (negative : Bool) {num den p : Nat} (hden : 0 < den)
    (h : Nearest (num / den) p) (hp : p < magnitudeCount) :
    ofRatio? negative num den = some ⟨negative, p, hp⟩ := by
  obtain rfl : nearestPattern num den = p := (nearest_nearestPattern num hden).unique h
  exact dif_pos hp

/-- A double that is nearest to the number is what the digits stand for. -/
theorem ofDecimal?_of_nearest (negative : Bool) {digits : Nat} {exponent : ℤ} {p : Nat}
    (h : Nearest (digits * 10 ^ exponent) p) (hp : p < magnitudeCount) :
    ofDecimal? negative digits exponent = some ⟨negative, p, hp⟩ := by
  rw [ofDecimal?]
  split
  · rename_i hexponent
    obtain ⟨n, rfl⟩ := Int.eq_ofNat_of_zero_le hexponent
    refine ofRatio?_of_nearest negative Nat.one_pos ?_ hp
    rw [Int.toNat_natCast, power_eq_pow, Nat.cast_one, div_one]
    exact_mod_cast h
  · obtain ⟨n, rfl⟩ : ∃ n : Nat, exponent = -n := ⟨(-exponent).toNat, by omega⟩
    refine ofRatio?_of_nearest negative ?_ ?_ hp
    · exact power_pos (by decide) _
    · rw [neg_neg, Int.toNat_natCast, power_eq_pow, Nat.cast_pow, Nat.cast_ofNat, div_eq_mul_inv,
        ← zpow_natCast, ← zpow_neg]
      exact h

end Screens.Double
