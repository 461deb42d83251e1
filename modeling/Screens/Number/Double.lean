import Screens.Number.Power

/-! Finite double-precision numbers, held exactly.

A `Double` is a sign and a magnitude pattern: the exponent field times `2 ^ 52`
plus the fraction field, below the pattern of infinity. Patterns count the
magnitudes upwards from zero, so the order of numbers is the order of their
signed patterns (`rank`), and the two zeros have one rank.

`ofRatio?` rounds an exact quotient of naturals to the nearest magnitude, a tie
to the even pattern. Products and quotients of two magnitudes are rounded the
same way, from the exact result. -/
namespace Screens

/-- The number of finite magnitudes: the pattern of infinity. -/
def magnitudeCount : Nat := 2047 * power 2 52

structure Double where
  negative : Bool
  pattern : Nat
  finite : pattern < magnitudeCount
deriving DecidableEq

namespace Double

/-- The magnitude is `significand * 2 ^ exponent`. -/
def significand (x : Double) : Nat :=
  if x.pattern < power 2 52 then x.pattern else power 2 52 + x.pattern % power 2 52

def exponent (x : Double) : Int :=
  if x.pattern < power 2 52 then -1074 else (x.pattern / power 2 52 : Nat) - 1075

/-- Signed position among all finite numbers; both zeros are at 0. -/
def rank (x : Double) : Int :=
  if x.negative then -(x.pattern : Int) else x.pattern

def neg (x : Double) : Double := { x with negative := !x.negative }

def zero (negative : Bool) : Double := ⟨negative, 0, by decide⟩

/-- The floor of the binary logarithm of `num / den`, for positive operands. -/
def logRatio (num den : Nat) : Int :=
  let guess : Int := (num.log2 : Int) - den.log2
  let reached := if guess ≥ 0 then den <<< guess.toNat ≤ num else den ≤ num <<< (-guess).toNat
  if reached then guess else guess - 1

/-- The quotient rounded to the nearest natural, a tie to the even one. -/
def divNearestEven (num den : Nat) : Nat :=
  let q := num / den
  let r := num % den
  if 2 * r < den then q
  else if den < 2 * r then q + 1
  else if q % 2 = 0 then q else q + 1

/-- The pattern nearest to `num / den`. The unit of the result is `2 ^ q`, chosen
so that the rounded significand has 53 bits or the exponent is the least one; a
carry out of the significand moves to the next exponent by itself. -/
def nearestPattern (num den : Nat) : Nat :=
  if num = 0 then 0
  else
    let q : Int := max (logRatio num den - 52) (-1074)
    let m := if q ≥ 0 then divNearestEven num (den <<< q.toNat)
      else divNearestEven (num <<< (-q).toNat) den
    (q + 1074).toNat * power 2 52 + m

/-- The double nearest to the signed quotient, unless it lies past the largest. -/
def ofRatio? (negative : Bool) (num den : Nat) : Option Double :=
  if h : nearestPattern num den < magnitudeCount then some ⟨negative, _, h⟩ else none

/-- The double nearest to `m * 2 ^ e`. -/
def ofBinary? (negative : Bool) (m : Nat) (e : Int) : Option Double :=
  if e ≥ 0 then ofRatio? negative (m <<< e.toNat) 1 else ofRatio? negative m (1 <<< (-e).toNat)

/-- The double nearest to `m * 10 ^ e`. -/
def ofDecimal? (negative : Bool) (m : Nat) (e : Int) : Option Double :=
  if e ≥ 0 then ofRatio? negative (m * power 10 e.toNat) 1
  else ofRatio? negative m (power 10 (-e).toNat)

def ofInt? (n : Int) : Option Double := ofRatio? (decide (n < 0)) n.natAbs 1

/-- The exact product of the magnitudes, rounded once. -/
def mul? (x y : Double) : Option Double :=
  ofBinary? (x.negative != y.negative) (x.significand * y.significand) (x.exponent + y.exponent)

/-- The exact quotient of the magnitudes, rounded once. -/
def div? (x y : Double) : Option Double :=
  let e := x.exponent - y.exponent
  if e ≥ 0 then ofRatio? (x.negative != y.negative) (x.significand <<< e.toNat) y.significand
  else ofRatio? (x.negative != y.negative) x.significand (y.significand <<< (-e).toNat)

end Double
end Screens
