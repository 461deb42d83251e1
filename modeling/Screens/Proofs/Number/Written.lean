import Mathlib.Algebra.Order.Ring.Pow
import Screens.Number.Numeral
import Screens.Proofs.Number.Nearest
import Screens.Proofs.Text.Digits

/-! Written numerals.

A numeral is read from its digits: after the sign come those of the whole part and of the
fraction, then perhaps an exponent (`magnitude?_whole`, `magnitude?_point`), and the number is
all the digits together, by a power of ten. It is read as the nearest double
(`ofDecimal_of_nearest`), an integer from all the ways there are to write it
(`Writes.ofChars?`). -/
namespace Screens.Numeral

/-- The exponent that is written behind the digits, zero where there is none. -/
def exponentPart? : List Char → Option Int
  | [] => some 0
  | c :: more => if c == 'e' || c == 'E' then exponent? more else none

theorem exponentPart?_nil : exponentPart? [] = some 0 := rfl

theorem head_of_exponentPart? {cs : List Char} {e : Int} (h : exponentPart? cs = some e) :
    ∀ c ∈ cs.head?, c.isDigit = false ∧ c ≠ '.' := by
  cases cs with
  | nil => simp
  | cons c more =>
    rintro _ ⟨⟩
    rw [exponentPart?] at h
    split at h
    · rename_i hletter
      rw [Bool.or_eq_true, beq_iff_eq, beq_iff_eq] at hletter
      rcases hletter with rfl | rfl <;> decide
    · cases h

/-- The digits behind a point, if there is one, and what follows them. -/
def fractionPart : List Char → List Char × List Char
  | '.' :: more => (more.takeWhile Char.isDigit, more.dropWhile Char.isDigit)
  | other => ([], other)

theorem fractionPart_of_ne {cs : List Char} (h : ∀ c ∈ cs.head?, c ≠ '.') :
    fractionPart cs = ([], cs) := by
  unfold fractionPart
  split
  · exact absurd rfl (h '.' rfl)
  · rfl

theorem magnitude?_eq (negative : Bool) (cs : List Char) :
    magnitude? negative cs =
      let whole := cs.takeWhile Char.isDigit
      let part := fractionPart (cs.dropWhile Char.isDigit)
      if (whole ++ part.1).isEmpty then none
      else (exponentPart? part.2).map fun e =>
        ofDecimal negative (digitsValue (whole ++ part.1)) (e - part.1.length) := by
  -- The same for every run of characters behind the whole part.
  have hparts : ∀ whole fraction rest : List Char,
      (if (whole ++ fraction).isEmpty then none
        else match rest with
          | [] => some (ofDecimal negative (digitsValue (whole ++ fraction)) (0 - fraction.length))
          | c :: more =>
            if c == 'e' || c == 'E' then
              (exponent? more).map fun e =>
                ofDecimal negative (digitsValue (whole ++ fraction)) (e - fraction.length)
            else none) =
      if (whole ++ fraction).isEmpty then none
      else (exponentPart? rest).map fun e =>
        ofDecimal negative (digitsValue (whole ++ fraction)) (e - fraction.length) := by
    intro whole fraction rest
    cases rest with
    | nil => rfl
    | cons c more =>
      rw [exponentPart?]
      split
      · rfl
      · dsimp only
        split <;> rfl
  exact hparts _ (fractionPart (cs.dropWhile Char.isDigit)).1 _

variable {whole fraction rest : List Char} {e : Int}

/-- Digits, and behind them the exponent. -/
theorem magnitude?_whole (negative : Bool) (hwhole : AllDigits whole) (hne : whole ≠ [])
    (hrest : exponentPart? rest = some e) :
    magnitude? negative (whole ++ rest) = some (ofDecimal negative (digitsValue whole) e) := by
  have hhead := head_of_exponentPart? hrest
  have hdigit : ∀ c ∈ rest.head?, c.isDigit = false := fun c hc => (hhead c hc).1
  rw [magnitude?_eq, hwhole.takeWhile_append hdigit, hwhole.dropWhile_append hdigit,
    fractionPart_of_ne fun c hc => (hhead c hc).2]
  simp [hne, hrest]

/-- Digits on both sides of a point, and behind them the exponent. -/
theorem magnitude?_point (negative : Bool) (hwhole : AllDigits whole) (hne : whole ≠ [])
    (hfraction : AllDigits fraction) (hrest : exponentPart? rest = some e) :
    magnitude? negative (whole ++ '.' :: (fraction ++ rest)) =
      some (ofDecimal negative (digitsValue (whole ++ fraction)) (e - fraction.length)) := by
  have hdigit : ∀ c ∈ rest.head?, c.isDigit = false := fun c hc =>
    (head_of_exponentPart? hrest c hc).1
  have hpoint : ∀ c ∈ ('.' :: (fraction ++ rest)).head?, c.isDigit = false := by
    rintro _ ⟨⟩
    rfl
  rw [magnitude?_eq, hwhole.takeWhile_append hpoint, hwhole.dropWhile_append hpoint]
  have hpart : fractionPart ('.' :: (fraction ++ rest)) = (fraction, rest) := by
    rw [fractionPart, hfraction.takeWhile_append hdigit, hfraction.dropWhile_append hdigit]
  simp [hpart, hne, hrest]

/-! ### The nearest double -/

open Double (Nearest midway magnitude)

/-- A power of ten is greater than that of two with three times the exponent. -/
theorem two_pow_le_ten_pow {m n : Nat} (h : m ≤ 3 * n) : (2 : ℚ) ^ m ≤ 10 ^ n :=
  calc (2 : ℚ) ^ m ≤ 2 ^ (3 * n) := pow_le_pow_right₀ (by norm_num) h
    _ = 8 ^ n := by
      rw [pow_mul]
      norm_num
    _ ≤ 10 ^ n := pow_le_pow_left₀ (by norm_num) (by norm_num) n

/-- The number of digits tells between which powers of ten the number is. -/
theorem bounds_of_digits {digits : Nat} (h : digits ≠ 0) (exponent : Int) :
    (10 : ℚ) ^ (exponent + (Nat.toDigits 10 digits).length - 1) ≤ digits * 10 ^ exponent ∧
      (digits : ℚ) * 10 ^ exponent < 10 ^ (exponent + (Nat.toDigits 10 digits).length) := by
  obtain ⟨n, hn⟩ : ∃ n, (Nat.toDigits 10 digits).length = n + 1 :=
    Nat.exists_eq_add_one_of_ne_zero Nat.length_toDigits_pos.ne'
  have hlt : digits < 10 ^ (n + 1) := by
    rw [← hn]
    exact (Nat.length_toDigits_le_iff (by decide) Nat.length_toDigits_pos).1 le_rfl
  have hle : 10 ^ n ≤ digits := by
    rcases Nat.eq_zero_or_pos n with rfl | hpos
    · exact Nat.one_le_iff_ne_zero.2 h
    · refine Nat.le_of_not_lt fun hless => ?_
      have := (Nat.length_toDigits_le_iff (b := 10) (by decide) hpos).2 hless
      omega
  have hlow : exponent + ((n + 1 : Nat) : ℤ) - 1 = n + exponent := by omega
  have hhigh : exponent + ((n + 1 : Nat) : ℤ) = (n + 1 : Nat) + exponent := by omega
  have hpos : (0 : ℚ) < 10 ^ exponent := by positivity
  rw [hn, hlow, hhigh, zpow_add₀ (by norm_num), zpow_add₀ (by norm_num), zpow_natCast, zpow_natCast]
  constructor
  · exact mul_le_mul_of_nonneg_right (by exact_mod_cast hle) hpos.le
  · exact mul_lt_mul_of_pos_right (by exact_mod_cast hlt) hpos

/-- Far below the least magnitude zero is the nearest. -/
theorem eq_zero_of_nearest {v : ℚ} {p : Nat} (h : Nearest v p) {reach : Int}
    (hv : v < 10 ^ reach) (hreach : reach < -400) : p = 0 := by
  refine Nat.eq_zero_of_not_pos fun hpos => ?_
  have hless : v < midway 0 :=
    calc v < 10 ^ reach := hv
      _ ≤ 10 ^ (-(400 : ℕ) : ℤ) := zpow_le_zpow_right₀ (by norm_num) (by omega)
      _ = (10 ^ 400)⁻¹ := by rw [zpow_neg, zpow_natCast]
      _ ≤ (2 ^ 1075)⁻¹ := inv_anti₀ (by positivity) (two_pow_le_ten_pow (by decide))
      _ = midway 0 := by rw [Double.midway_zero, ← zpow_natCast, ← zpow_neg]; rfl
  exact absurd (h.ge 0 hpos) (not_le.2 hless)

/-- Far above the greatest double none is the nearest. -/
theorem reach_le_of_nearest {v : ℚ} {p : Nat} (h : Nearest v p) (hp : p < magnitudeCount)
    {reach : Int} (hv : 10 ^ (reach - 1) ≤ v) : reach ≤ 400 := by
  by_contra hreach
  have hmore : magnitude magnitudeCount ≤ v :=
    calc magnitude magnitudeCount = 2 ^ 1024 := Double.magnitude_magnitudeCount
      _ ≤ 10 ^ 400 := two_pow_le_ten_pow (by decide)
      _ = 10 ^ ((400 : ℕ) : ℤ) := (zpow_natCast _ _).symm
      _ ≤ 10 ^ (reach - 1) := zpow_le_zpow_right₀ (by norm_num) (by omega)
      _ ≤ v := hv
  have hless : v < magnitude magnitudeCount :=
    calc v ≤ midway p := h.le
      _ < magnitude (p + 1) := Double.midway_lt_magnitude p
      _ ≤ magnitude magnitudeCount := Double.magnitude_strictMono.monotone hp
  exact absurd hmore (not_le.2 hless)

/-- The double nearest to the number is what the digits are read as; those that decide the
number by their count alone are no exception. -/
theorem ofDecimal_of_nearest (negative : Bool) {digits : Nat} {exponent : Int} {p : Nat}
    (h : Nearest (digits * 10 ^ exponent) p) (hp : p < magnitudeCount) :
    ofDecimal negative digits exponent = .finite ⟨negative, p, hp⟩ := by
  have hzero : p = 0 → Numeral.finite (.zero negative) = .finite ⟨negative, p, hp⟩ := by
    rintro rfl
    rfl
  unfold ofDecimal
  dsimp only
  by_cases hdigits : digits = 0
  · subst hdigits
    have hp0 : Nearest 0 0 := Double.magnitude_zero ▸ Double.nearest_magnitude 0
    rw [Nat.cast_zero, zero_mul] at h
    exact hzero (h.unique hp0)
  · obtain ⟨hlow, hhigh⟩ := bounds_of_digits hdigits exponent
    rw [Double.ofDecimal?_of_nearest negative h hp]
    generalize exponent + ((Nat.toDigits 10 digits).length : Int) = reach at *
    by_cases hsmall : reach < -400
    · rw [if_pos (by simp [hsmall])]
      exact hzero (eq_zero_of_nearest h hhigh hsmall)
    · have hlarge : ¬ 400 < reach := not_lt.2 (reach_le_of_nearest h hp hlow)
      rw [if_neg (by simp [hdigits, hsmall]), if_neg hlarge]

/-! ### Signs -/

/-- What starts with a digit behind the sign is no word. -/
theorem ofChars?_of_splitSign {cs rest : List Char} {c : Char} {negative : Bool}
    (h : splitSign cs = (negative, c :: rest)) (hc : c.isDigit = true) :
    ofChars? cs = magnitude? negative (c :: rest) := by
  have hlower : c.toLower = c := by
    have hdigit := toNat_of_isDigit hc
    refine dif_neg fun hupper => ?_
    have hle : 65 ≤ c.toNat := UInt32.le_iff_toNat_le.1 hupper.1
    omega
  have hword : ∀ d word, d.isDigit = false → (c :: rest).map Char.toLower ≠ d :: word := by
    intro d word hd heq
    rw [List.map_cons, hlower] at heq
    rw [(List.cons.inj heq).1, hd] at hc
    cases hc
  have hinf : "inf".toList = ['i', 'n', 'f'] := rfl
  have hinfinity : "infinity".toList = ['i', 'n', 'f', 'i', 'n', 'i', 't', 'y'] := rfl
  have hnan : "nan".toList = ['n', 'a', 'n'] := rfl
  rw [ofChars?, h]
  dsimp only
  rw [hinf, hinfinity, hnan, decide_eq_false (hword 'i' _ rfl), decide_eq_false (hword 'i' _ rfl),
    if_neg (hword 'n' _ rfl)]
  rfl

theorem splitSign_of_isDigit {c : Char} (h : c.isDigit = true) (rest : List Char) :
    splitSign (c :: rest) = (false, c :: rest) := by
  unfold splitSign
  split
  · rename_i heq
    rw [(List.cons.inj heq).1] at h
    cases h
  · rename_i heq
    rw [(List.cons.inj heq).1] at h
    cases h
  · rfl

/-- Digits behind a sign, or none. -/
theorem not_blank_of_splitSign {cs : List Char} (h : AllDigits (splitSign cs).2) :
    ∀ c ∈ cs, isBlank c = false := by
  unfold splitSign at h
  split at h
  · exact List.forall_mem_cons.2 ⟨rfl, not_blank_of_allDigits h⟩
  · exact List.forall_mem_cons.2 ⟨rfl, not_blank_of_allDigits h⟩
  · exact not_blank_of_allDigits h

/-- The ways to write an integer in decimal: digits, behind a sign or none. Zeros in front do
not count. -/
inductive Writes : List Char → Int → Prop
  | unsigned {digits : List Char} (h : AllDigits digits) (hne : digits ≠ []) :
    Writes digits (digitsValue digits)
  | plus {digits : List Char} (h : AllDigits digits) (hne : digits ≠ []) :
    Writes ('+' :: digits) (digitsValue digits)
  | minus {digits : List Char} (h : AllDigits digits) (hne : digits ≠ []) :
    Writes ('-' :: digits) (-digitsValue digits)

/-- Its own text writes an integer. -/
theorem writes_toString (n : Int) : Writes (toString n).toList n := by
  have hdigits : ∀ k, Writes (Nat.toDigits 10 k) k := fun k => by
    simpa only [digitsValue_toDigits] using
      Writes.unsigned (allDigits_toDigits k) Nat.toDigits_ne_nil
  have hminus : ∀ k : Nat, Writes ('-' :: Nat.toDigits 10 k) (-k) := fun k => by
    simpa only [digitsValue_toDigits] using
      Writes.minus (allDigits_toDigits k) Nat.toDigits_ne_nil
  cases n with
  | ofNat k =>
    have htext : (toString (Int.ofNat k)).toList = Nat.toDigits 10 k := Nat.toList_repr
    rw [htext]
    exact hdigits k
  | negSucc k =>
    have htext : (toString (Int.negSucc k)).toList = '-' :: Nat.toDigits 10 (k + 1) := by
      simp [Nat.toList_repr, toString, Int.repr]
    rw [htext]
    exact hminus (k + 1)

/-- What writes an integer is read as its digits. -/
theorem Writes.ofChars? {cs : List Char} {n : Int} (h : Writes cs n) :
    ∃ negative, Numeral.ofChars? cs = some (ofDecimal negative n.natAbs 0) ∧
      (n ≠ 0 → negative = decide (n < 0)) := by
  have hread : ∀ {digits signed : List Char} {negative : Bool}, AllDigits digits → digits ≠ [] →
      splitSign signed = (negative, digits) →
      Numeral.ofChars? signed = some (ofDecimal negative (digitsValue digits) 0) := by
    intro digits signed negative hall hne hsplit
    obtain ⟨c, rest, rfl⟩ := List.exists_cons_of_ne_nil hne
    have hmagnitude := magnitude?_whole negative hall hne exponentPart?_nil
    rw [List.append_nil] at hmagnitude
    rw [ofChars?_of_splitSign hsplit (hall c List.mem_cons_self), hmagnitude]
  cases h with
  | @unsigned digits hall hne =>
    refine ⟨false, ?_, fun _ => by simp⟩
    obtain ⟨c, rest, rfl⟩ := List.exists_cons_of_ne_nil hne
    exact hread hall hne (splitSign_of_isDigit (hall c List.mem_cons_self) rest)
  | plus hall hne => exact ⟨false, hread hall hne rfl, fun _ => by simp⟩
  | @minus digits hall hne =>
    refine ⟨true, ?_, fun hzero => ?_⟩
    · rw [Int.natAbs_neg]
      exact hread hall hne rfl
    · have : -(digitsValue digits : Int) < 0 := by omega
      rw [decide_eq_true this]

/-- Blanks around it aside, a numeral for an integer has none to be trimmed. -/
theorem Writes.not_blank {cs : List Char} {n : Int} (h : Writes cs n) :
    ∀ c ∈ cs, isBlank c = false := by
  cases h with
  | unsigned hall => exact not_blank_of_allDigits hall
  | plus hall => exact not_blank_of_splitSign hall
  | minus hall => exact not_blank_of_splitSign hall

end Screens.Numeral
