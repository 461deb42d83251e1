import Screens.Number.Shortest

/-! The written form of a double.

The shortest digits are written positionally, always with a fraction, while the
decimal exponent is in the layout's range; outside it they are written as one
digit, a fraction if there is one, and a signed exponent without padding. -/
namespace Screens

/-- The exponents written positionally: `leastPlain` up to, but not at, `firstScientific`. -/
structure NumberLayout where
  leastPlain : Int
  firstScientific : Int

/-- `0.00001` and `1000000000000000.0` are the outermost powers of ten without an exponent. -/
def NumberLayout.standard : NumberLayout := ⟨-5, 16⟩

namespace Double

/-- The shortest digits without trailing zeros, and the exponent of the first. -/
def scientific (x : Double) : List Char × Int :=
  let d := x.shortest
  let digits := Nat.toDigits 10 d.digits
  let kept := (digits.reverse.dropWhile (· == '0')).reverse
  (kept, d.exponent + digits.length - 1)

def positional (digits : List Char) (exponent : Int) : List Char :=
  if exponent < 0 then
    ['0', '.'] ++ List.replicate (-exponent - 1).toNat '0' ++ digits
  else
    let whole := exponent.toNat + 1
    let fraction := digits.drop whole
    digits.take whole ++ List.replicate (whole - digits.length) '0' ++ ['.'] ++
      (if fraction.isEmpty then ['0'] else fraction)

def withExponent (digits : List Char) (exponent : Int) : List Char :=
  let fraction := digits.drop 1
  digits.take 1 ++ (if fraction.isEmpty then [] else '.' :: fraction) ++
    ['e', if exponent < 0 then '-' else '+'] ++ Nat.toDigits 10 exponent.natAbs

def chars (layout : NumberLayout) (x : Double) : List Char :=
  let sign := if x.negative then ['-'] else []
  if x.pattern = 0 then sign ++ ['0', '.', '0']
  else
    let (digits, exponent) := x.scientific
    if layout.leastPlain ≤ exponent ∧ exponent < layout.firstScientific then
      sign ++ positional digits exponent
    else sign ++ withExponent digits exponent

end Double
end Screens
