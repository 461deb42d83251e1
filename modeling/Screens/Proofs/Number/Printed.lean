import Screens.Number.Text
import Screens.Proofs.Number.Shortest
import Screens.Proofs.Number.Written

/-! Printed doubles.

In every layout a double is printed as a sign and a decimal (`WritesDecimal`) that has the value
of its shortest digits, and so it is read back to itself (`ofChars?_chars`). -/
namespace Screens

theorem digitsValue_append_zeros (cs : List Char) (n : Nat) :
    digitsValue (cs ++ List.replicate n '0') = digitsValue cs * 10 ^ n := by
  have happend := Nat.ofDigitChars_append (b := 10) (l := cs) (m := List.replicate n '0') 0
  rw [Nat.ofDigitChars_replicate_zero, Nat.mul_comm] at happend
  exact happend

theorem digitsValue_zeros_append (n : Nat) (cs : List Char) :
    digitsValue (List.replicate n '0' ++ cs) = digitsValue cs := by
  have happend := Nat.ofDigitChars_append (b := 10) (l := List.replicate n '0') (m := cs) 0
  rw [Nat.ofDigitChars_replicate_zero, Nat.mul_zero] at happend
  exact happend

/-- Digits are those without the zeros they end in, and the zeros. -/
theorem exists_append_zeros (cs : List Char) :
    ∃ n, cs = (cs.reverse.dropWhile (· == '0')).reverse ++ List.replicate n '0' := by
  refine ⟨(cs.reverse.takeWhile (· == '0')).length, ?_⟩
  have hall := List.all_eq_true.1 (List.all_takeWhile (p := (· == '0')) (l := cs.reverse))
  have hzeros := List.eq_replicate_of_mem fun c hc => eq_of_beq (hall c hc)
  rw [← List.reverse_replicate, ← hzeros, ← List.reverse_append, List.takeWhile_append_dropWhile,
    List.reverse_reverse]

namespace Numeral

open Double (Nearest)

/-- The ways to write a number in decimal without a sign: digits, perhaps with a point among
them, and perhaps an exponent behind them. -/
inductive WritesDecimal : List Char → ℚ → Prop
  | whole {whole rest : List Char} {e : Int} (hwhole : AllDigits whole) (hne : whole ≠ [])
    (hrest : exponentPart? rest = some e) :
    WritesDecimal (whole ++ rest) (digitsValue whole * 10 ^ e)
  | point {whole fraction rest : List Char} {e : Int} (hwhole : AllDigits whole)
    (hne : whole ≠ []) (hfraction : AllDigits fraction) (hrest : exponentPart? rest = some e) :
    WritesDecimal (whole ++ '.' :: (fraction ++ rest))
      (digitsValue (whole ++ fraction) * 10 ^ (e - fraction.length))

theorem not_blank_of_exponentPart? {cs : List Char} {e : Int} (h : exponentPart? cs = some e) :
    ∀ c ∈ cs, isBlank c = false := by
  cases cs with
  | nil => exact List.forall_mem_nil _
  | cons c more =>
    rw [exponentPart?] at h
    split at h
    · rename_i hletter
      rw [Bool.or_eq_true, beq_iff_eq, beq_iff_eq] at hletter
      have hc : isBlank c = false := by rcases hletter with rfl | rfl <;> rfl
      refine List.forall_mem_cons.2 ⟨hc, not_blank_of_splitSign ?_⟩
      unfold exponent? at h
      dsimp only at h
      split at h
      · cases h
      · rename_i hdigits
        simp only [Bool.or_eq_true, Bool.not_eq_true', not_or, Bool.not_eq_false] at hdigits
        exact List.all_eq_true.1 hdigits.2
    · cases h

namespace WritesDecimal

variable {cs : List Char} {v : ℚ} (h : WritesDecimal cs v)

include h

theorem exists_cons : ∃ c rest, cs = c :: rest ∧ c.isDigit = true := by
  cases h with
  | whole hwhole hne =>
    obtain ⟨c, more, rfl⟩ := List.exists_cons_of_ne_nil hne
    exact ⟨c, _, rfl, hwhole c List.mem_cons_self⟩
  | point hwhole hne =>
    obtain ⟨c, more, rfl⟩ := List.exists_cons_of_ne_nil hne
    exact ⟨c, _, rfl, hwhole c List.mem_cons_self⟩

/-- A decimal is read as the double nearest to its value. -/
theorem magnitude?_eq (negative : Bool) {p : Nat} (hv : Nearest v p) (hp : p < magnitudeCount) :
    magnitude? negative cs = some (.finite ⟨negative, p, hp⟩) := by
  cases h with
  | whole hwhole hne hrest =>
    rw [magnitude?_whole negative hwhole hne hrest, ofDecimal_of_nearest negative hv hp]
  | point hwhole hne hfraction hrest =>
    rw [magnitude?_point negative hwhole hne hfraction hrest, ofDecimal_of_nearest negative hv hp]

theorem ofChars?_signed (negative : Bool) {p : Nat} (hv : Nearest v p) (hp : p < magnitudeCount) :
    ofChars? ((if negative then ['-'] else []) ++ cs) = some (.finite ⟨negative, p, hp⟩) := by
  have hread := h.magnitude?_eq negative hv hp
  obtain ⟨c, rest, rfl, hc⟩ := h.exists_cons
  cases negative with
  | true => rw [← hread]; exact ofChars?_of_splitSign rfl hc
  | false => rw [← hread]; exact ofChars?_of_splitSign (splitSign_of_isDigit hc rest) hc

theorem not_blank : ∀ c ∈ cs, isBlank c = false := by
  cases h with
  | whole hwhole hne hrest =>
    exact List.forall_mem_append.2 ⟨not_blank_of_allDigits hwhole, not_blank_of_exponentPart? hrest⟩
  | point hwhole hne hfraction hrest =>
    refine List.forall_mem_append.2
      ⟨not_blank_of_allDigits hwhole, List.forall_mem_cons.2 ⟨rfl, ?_⟩⟩
    exact List.forall_mem_append.2
      ⟨not_blank_of_allDigits hfraction, not_blank_of_exponentPart? hrest⟩

end WritesDecimal

/-! ### Layouts -/

variable {digits : List Char}

theorem writesDecimal_positional (h : AllDigits digits) (hne : digits ≠ []) (e : Int) :
    WritesDecimal (Double.positional digits e)
      (digitsValue digits * 10 ^ (e + 1 - digits.length)) := by
  have hzero : AllDigits ['0'] := allDigits_zeros 1
  rw [Double.positional]
  split
  · -- Zeros come first, one of them before the point.
    have hwrites := WritesDecimal.point hzero (List.cons_ne_nil '0' [])
      ((allDigits_zeros (-e - 1).toNat).append h) exponentPart?_nil
    have hvalue : digitsValue (['0'] ++ (List.replicate (-e - 1).toNat '0' ++ digits)) =
        digitsValue digits := digitsValue_zeros_append ((-e - 1).toNat + 1) digits
    have hexponent : 0 - ((List.replicate (-e - 1).toNat '0' ++ digits).length : Int) =
        e + 1 - digits.length := by
      rw [List.length_append, List.length_replicate]
      omega
    rw [hvalue, hexponent, List.append_nil] at hwrites
    exact hwrites
  · rename_i hnonneg
    dsimp only
    generalize hcount : e.toNat + 1 = count
    rcases Nat.lt_or_ge count digits.length with hlt | hle
    · have hfraction : (digits.drop count).isEmpty = false := by
        simpa using hlt
      have hwhole : AllDigits (digits.take count) := fun c hc => h c (List.mem_of_mem_take hc)
      have hbehind : AllDigits (digits.drop count) := fun c hc => h c (List.mem_of_mem_drop hc)
      have hwrites := WritesDecimal.point hwhole (by simp [hne]; omega) hbehind exponentPart?_nil
      have hexponent : 0 - ((digits.drop count).length : Int) = e + 1 - digits.length := by
        rw [List.length_drop]
        omega
      rw [List.take_append_drop, hexponent, List.append_nil] at hwrites
      rw [Nat.sub_eq_zero_of_le hlt.le, if_neg (by simp [hfraction])]
      simpa using hwrites
    · -- Zeros come last, one of them behind the point.
      have hwrites := WritesDecimal.point (h.append (allDigits_zeros (count - digits.length)))
        (by simp [hne]) hzero exponentPart?_nil
      have hvalue : digitsValue ((digits ++ List.replicate (count - digits.length) '0') ++ ['0']) =
          digitsValue digits * 10 ^ (count - digits.length + 1) := by
        rw [← digitsValue_append_zeros, List.replicate_succ', List.append_assoc]
      have hexponent : e + 1 - digits.length =
          (count - digits.length + 1 : Nat) + (0 - (['0'].length : Int)) := by
        rw [List.length_singleton]
        omega
      rw [hvalue, Nat.cast_mul, Nat.cast_pow, Nat.cast_ofNat, mul_assoc, ← zpow_natCast,
        ← zpow_add₀ (by norm_num), ← hexponent] at hwrites
      rw [List.take_of_length_le hle, List.drop_eq_nil_of_le hle]
      simpa using hwrites

theorem exponentPart?_written (e : Int) :
    exponentPart? ('e' :: (if e < 0 then '-' else '+') :: Nat.toDigits 10 e.natAbs) = some e := by
  have hdigits : (Nat.toDigits 10 e.natAbs).isEmpty = false := by
    rw [List.isEmpty_eq_false_iff]
    exact Nat.toDigits_ne_nil
  have hall : (Nat.toDigits 10 e.natAbs).all Char.isDigit = true :=
    List.all_eq_true.2 (allDigits_toDigits _)
  have hletter : ('e' == 'e' || 'e' == 'E') = true := rfl
  have hread : ∀ negative, splitSign ((if e < 0 then '-' else '+') :: Nat.toDigits 10 e.natAbs) =
      (negative, Nat.toDigits 10 e.natAbs) →
      exponent? ((if e < 0 then '-' else '+') :: Nat.toDigits 10 e.natAbs) =
        some (if negative then -(e.natAbs : Int) else e.natAbs) := by
    intro negative hsplit
    rw [exponent?, hsplit]
    simp only [hdigits, hall, digitsValue_toDigits]
    rfl
  rw [exponentPart?, if_pos hletter]
  by_cases he : e < 0
  · rw [hread true (by rw [if_pos he]; rfl), if_pos rfl, Option.some.injEq]
    omega
  · rw [hread false (by rw [if_neg he]; rfl), if_neg Bool.false_ne_true, Option.some.injEq]
    omega

theorem writesDecimal_withExponent (h : AllDigits digits) (hne : digits ≠ []) (e : Int) :
    WritesDecimal (Double.withExponent digits e)
      (digitsValue digits * 10 ^ (e + 1 - digits.length)) := by
  obtain ⟨first, more, rfl⟩ := List.exists_cons_of_ne_nil hne
  have hfirst : AllDigits [first] := List.forall_mem_singleton.2 (h first List.mem_cons_self)
  rw [Double.withExponent]
  cases more with
  | nil =>
    have hwrites := WritesDecimal.whole hfirst hne (exponentPart?_written e)
    have hexponent : e + 1 - ([first].length : Int) = e := by
      rw [List.length_singleton]
      omega
    rw [hexponent]
    exact hwrites
  | cons second more =>
    have hmore : AllDigits (second :: more) := fun c hc => h c (List.mem_cons_of_mem first hc)
    have hwrites := WritesDecimal.point hfirst (List.cons_ne_nil first []) hmore
      (exponentPart?_written e)
    have hexponent : e - ((second :: more).length : Int) =
        e + 1 - ((first :: second :: more).length : Int) := by
      simp only [List.length_cons]
      omega
    rw [hexponent] at hwrites
    simpa using hwrites

end Numeral

namespace Double

open Numeral (WritesDecimal)

/-- The digits that are printed have the value of the shortest ones. -/
theorem scientific_spec {x : Double} (hx : x.pattern ≠ 0) :
    AllDigits x.scientific.1 ∧ x.scientific.1 ≠ [] ∧
      (digitsValue x.scientific.1 : ℚ) * 10 ^ (x.scientific.2 + 1 - x.scientific.1.length) =
        x.shortest.digits * 10 ^ x.shortest.exponent := by
  have hnearest := nearest_shortest x
  rw [scientific]
  dsimp only
  obtain ⟨n, hn⟩ := exists_append_zeros (Nat.toDigits 10 x.shortest.digits)
  have hvalue := digitsValue_toDigits x.shortest.digits
  have hall := allDigits_toDigits x.shortest.digits
  generalize Nat.toDigits 10 x.shortest.digits = digits at *
  generalize (digits.reverse.dropWhile (· == '0')).reverse = kept at *
  subst hn
  rw [digitsValue_append_zeros] at hvalue
  refine ⟨fun c hc => hall c (List.mem_append_left _ hc), ?_, ?_⟩
  · rintro rfl
    have hzero : x.shortest.digits = 0 := by
      rw [← hvalue]
      exact Nat.zero_mul _
    rw [hzero, Nat.cast_zero, zero_mul, ← magnitude_zero] at hnearest
    exact hx (hnearest.unique (nearest_magnitude 0))
  · have hexponent : x.shortest.exponent + ((kept ++ List.replicate n '0').length : Int) - 1 + 1 -
        kept.length = n + x.shortest.exponent := by
      rw [List.length_append, List.length_replicate]
      omega
    rw [hexponent, ← hvalue, Nat.cast_mul, Nat.cast_pow, Nat.cast_ofNat, mul_assoc,
      ← zpow_natCast, ← zpow_add₀ (by norm_num)]

/-- A double is printed as a sign and a decimal to which it is the nearest. -/
theorem chars_eq (layout : NumberLayout) (x : Double) :
    ∃ cs v, x.chars layout = (if x.negative then ['-'] else []) ++ cs ∧ WritesDecimal cs v ∧
      Nearest v x.pattern := by
  rw [chars]
  split
  · rename_i hzero
    have hzeros : AllDigits ['0'] := allDigits_zeros 1
    have hwrites := WritesDecimal.point hzeros (List.cons_ne_nil _ _) hzeros
      Numeral.exponentPart?_nil
    refine ⟨_, _, rfl, hwrites, ?_⟩
    have hvalue : digitsValue (['0'] ++ ['0']) = 0 := rfl
    rw [hvalue, Nat.cast_zero, zero_mul, hzero, ← magnitude_zero]
    exact nearest_magnitude 0
  · rename_i hx
    obtain ⟨hall, hne, hvalue⟩ := scientific_spec hx
    have hnearest : Nearest (digitsValue x.scientific.1 *
        10 ^ (x.scientific.2 + 1 - x.scientific.1.length)) x.pattern := hvalue ▸ nearest_shortest x
    dsimp only
    split
    · exact ⟨_, _, rfl, Numeral.writesDecimal_positional hall hne _, hnearest⟩
    · exact ⟨_, _, rfl, Numeral.writesDecimal_withExponent hall hne _, hnearest⟩

/-- What is printed is read back. -/
theorem ofChars?_chars (layout : NumberLayout) (x : Double) :
    Numeral.ofChars? (x.chars layout) = some (.finite x) := by
  obtain ⟨cs, v, hchars, hwrites, hnearest⟩ := chars_eq layout x
  rw [hchars]
  exact hwrites.ofChars?_signed x.negative hnearest x.finite

theorem not_blank_of_mem_chars (layout : NumberLayout) (x : Double) :
    ∀ c ∈ x.chars layout, isBlank c = false := by
  obtain ⟨cs, v, hchars, hwrites, -⟩ := chars_eq layout x
  rw [hchars]
  refine List.forall_mem_append.2 ⟨?_, hwrites.not_blank⟩
  split
  · exact List.forall_mem_singleton.2 rfl
  · exact List.forall_mem_nil _

end Double
end Screens
