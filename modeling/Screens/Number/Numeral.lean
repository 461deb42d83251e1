import Screens.Number.Double
import Screens.Text.Scan

/-! Numerals a person may write where a number is compared.

A numeral is an optional sign and digits with an optional fraction and exponent,
at least one digit before the exponent; or a sign and one of `inf`, `infinity`,
`nan` in any case. It stands for the nearest double, or an infinity past the
largest one. -/
namespace Screens

inductive Numeral where
  | finite (x : Double)
  | infinite (negative : Bool)
  | notANumber
deriving DecidableEq

namespace Numeral

/-- The position among all numbers, infinities at the ends. -/
def rank? : Numeral → Option Int
  | finite x => some x.rank
  | infinite negative => some (if negative then -(magnitudeCount : Int) else magnitudeCount)
  | notANumber => none

/-- Numbers compared by position: the two zeros are the same, and what is not a number is not
the same as anything, itself included. -/
def same (x y : Numeral) : Bool := x.rank?.isSome && x.rank? == y.rank?

/-- `digits * 10 ^ exponent`. Digits that put the number far outside the range
decide it without forming the power. -/
def ofDecimal (negative : Bool) (digits : Nat) (exponent : Int) : Numeral :=
  let reach := exponent + (Nat.toDigits 10 digits).length
  if digits = 0 || reach < -400 then .finite (.zero negative)
  else if 400 < reach then .infinite negative
  else match Double.ofDecimal? negative digits exponent with
    | some x => .finite x
    | none => .infinite negative

def splitSign : List Char → Bool × List Char
  | '-' :: rest => (true, rest)
  | '+' :: rest => (false, rest)
  | cs => (false, cs)

/-- A signed run of at least one digit and nothing else. -/
def exponent? (cs : List Char) : Option Int :=
  let (negative, digits) := splitSign cs
  if digits.isEmpty || !digits.all Char.isDigit then none
  else some (if negative then -(digitsValue digits : Int) else digitsValue digits)

/-- Digits, an optional fraction, an optional exponent. -/
def magnitude? (negative : Bool) (cs : List Char) : Option Numeral :=
  let whole := cs.takeWhile Char.isDigit
  let afterWhole := cs.dropWhile Char.isDigit
  let (fraction, rest) := match afterWhole with
    | '.' :: more => (more.takeWhile Char.isDigit, more.dropWhile Char.isDigit)
    | other => ([], other)
  let digits := whole ++ fraction
  if digits.isEmpty then none
  else
    let number (e : Int) : Numeral := ofDecimal negative (digitsValue digits) (e - fraction.length)
    match rest with
    | [] => some (number 0)
    | c :: more => if c == 'e' || c == 'E' then (exponent? more).map number else none

def ofChars? (cs : List Char) : Option Numeral :=
  let (negative, rest) := splitSign cs
  let word := rest.map Char.toLower
  if word = "inf".toList || word = "infinity".toList then some (.infinite negative)
  else if word = "nan".toList then some .notANumber
  else magnitude? negative rest

end Numeral
end Screens
