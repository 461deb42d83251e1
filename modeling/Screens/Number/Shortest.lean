import Screens.Number.Double

/-! The fewest decimal digits that read back to a double.

The reals that round to a double form an interval around it, ends included
exactly when its pattern is even. For one digit, two, and so on, the two
neighbours of the number on that decimal grid are tested against the interval in
exact arithmetic; the first grid with a hit wins, and of two hits the nearer. -/
namespace Screens.Double

/-- The number `digits * 10 ^ exponent`. -/
structure Decimal where
  digits : Nat
  exponent : Int
deriving DecidableEq

/-- `m * 2 ^ e` is at most `d * 10 ^ k`. -/
def binaryLeDecimal (m : Nat) (e : Int) (d : Nat) (k : Int) : Bool :=
  decide (m * power 2 e.toNat * power 10 (-k).toNat ≤ d * power 10 k.toNat * power 2 (-e).toNat)

/-- `d * 10 ^ k` is at most `m * 2 ^ e`. -/
def decimalLeBinary (d : Nat) (k : Int) (m : Nat) (e : Int) : Bool :=
  decide (d * power 10 k.toNat * power 2 (-e).toNat ≤ m * power 2 e.toNat * power 10 (-k).toNat)

/-- The interval of reals that round to the magnitude, in units of a quarter of
its last place: below a power of two the gap is half as wide. -/
structure Interval where
  low : Nat
  high : Nat
  exponent : Int
  closed : Bool

def interval (x : Double) : Interval :=
  let m := 4 * x.significand
  let narrow := x.pattern % power 2 52 = 0 ∧ 2 * power 2 52 ≤ x.pattern
  { low := if narrow then m - 1 else m - 2
    high := m + 2
    exponent := x.exponent - 2
    closed := x.pattern % 2 = 0 }

def Interval.holds (i : Interval) (d : Nat) (k : Int) : Bool :=
  if i.closed then binaryLeDecimal i.low i.exponent d k && decimalLeBinary d k i.high i.exponent
  else !decimalLeBinary d k i.low i.exponent && !binaryLeDecimal i.high i.exponent d k

/-- The floor of the decimal logarithm of a positive magnitude. -/
def decimalLog (x : Double) : Int :=
  let guess : Int := ((x.significand.log2 : Int) + x.exponent) * 30103 / 100000
  if decimalLeBinary 1 (guess + 1) x.significand x.exponent then guess + 1
  else if decimalLeBinary 1 guess x.significand x.exponent then guess
  else guess - 1

/-- The multiple of `10 ^ k` at or below the magnitude. -/
def floorOn (x : Double) (k : Int) : Nat :=
  (x.significand * power 2 x.exponent.toNat * power 10 (-k).toNat) /
    (power 10 k.toNat * power 2 (-x.exponent).toNat)

/-- The lower neighbour is at least as near: the number is at most halfway up.
An exact half goes to the even digit. -/
def lowerNearer (x : Double) (d : Nat) (k : Int) : Bool :=
  let twice := 2 * x.significand
  let middle := 2 * d + 1
  let below := binaryLeDecimal twice x.exponent middle k
  let above := decimalLeBinary middle k twice x.exponent
  if below && above then d % 2 == 0 else below

/-- The better neighbour on the grid of `10 ^ k`, if one reads back. -/
def onGrid? (x : Double) (k : Int) : Option Nat :=
  let d := x.floorOn k
  match x.interval.holds d k, x.interval.holds (d + 1) k with
  | true, true => some (if x.lowerNearer d k then d else d + 1)
  | true, false => some d
  | false, true => some (d + 1)
  | false, false => none

/-- Tries the grids of `count` digits, one more, and so on. -/
def shortestFrom (x : Double) (log : Int) : Nat → Nat → Decimal
  | 0, count => ⟨x.floorOn (log + 1 - count), log + 1 - count⟩
  | tries + 1, count =>
    match x.onGrid? (log + 1 - count) with
    | some d => ⟨d, log + 1 - count⟩
    | none => shortestFrom x log tries (count + 1)

/-- The fewest digits whose number rounds to the magnitude; seventeen always do. -/
def shortest (x : Double) : Decimal :=
  if x.pattern = 0 then ⟨0, 0⟩ else shortestFrom x x.decimalLog 17 1

end Screens.Double
