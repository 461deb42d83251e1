import Screens.Unicode.Ranges

/-! Labels of hosts in ASCII (RFC 3492).

A label that is not ASCII is written as `xn--`, its ASCII characters in order, a hyphen,
and where each of the others goes, as numbers in base 36. -/
namespace Screens.Punycode
open Unicode (isAscii)

/-! ### Writing -/

/-- A digit of base 36: `a` to `z`, then `0` to `9`. -/
def digit (n : Nat) : Char :=
  if n < 26 then Char.ofNat ('a'.toNat + n) else Char.ofNat ('0'.toNat + (n - 26))

/-- The digit at place `k` ends a number if it is below this. -/
def threshold (k bias : Nat) : Nat := max 1 (min 26 (36 * (k + 1) - bias))

/-- A number whose digits have a threshold each, the digit of least weight first. -/
def digits (bias q k : Nat) : List Char :=
  if q < threshold k bias then [digit q]
  else
    let beyond := q - threshold k bias
    let base := 36 - threshold k bias
    digit (threshold k bias + beyond % base) :: digits bias (beyond / base) (k + 1)
termination_by q
decreasing_by
  have positive : 1 ≤ threshold k bias := Nat.le_max_left ..
  have := Nat.div_le_self (q - threshold k bias) (36 - threshold k bias)
  omega

/-- How often `delta` can be taken down, and what is left. -/
def takeDown (delta : Nat) : Nat × Nat :=
  if 455 < delta then
    let (steps, rest) := takeDown (delta / 35)
    (steps + 1, rest)
  else (0, delta)
termination_by delta

/-- The bias after a number is written. -/
def adapted (delta count : Nat) (first : Bool) : Nat :=
  let delta := if first then delta / 700 else delta / 2
  let (steps, rest) := takeDown (delta + delta / count)
  36 * steps + 36 * rest / (rest + 38)

/-- What is known between two numbers: how many characters are placed. -/
structure State where
  delta : Nat
  bias : Nat
  placed : Nat
  written : List Char

/-- One character of the label, while those of code `n` are placed. -/
def place (basic n : Nat) (s : State) (c : Char) : State :=
  if c.toNat < n then { s with delta := s.delta + 1 }
  else if c.toNat = n then
    { delta := 0
      bias := adapted s.delta (s.placed + 1) (s.placed == basic)
      placed := s.placed + 1
      written := s.written ++ digits s.bias s.delta 0 }
  else s

/-- Places the characters of each code in turn, from the code reached. -/
def placeAll (label : List Char) (basic : Nat) :
    (codes : List Nat) → (reached : Nat) → State → State
  | [], _, s => s
  | n :: codes, reached, s =>
    let s := { s with delta := s.delta + (n - reached) * (s.placed + 1) }
    let s := label.foldl (place basic n) s
    placeAll label basic codes (n + 1) { s with delta := s.delta + 1 }

/-- The codes past ASCII of a label, ascending, each once. -/
def codes (label : List Char) : List Nat :=
  ((label.filter (!isAscii ·)).map Char.toNat).mergeSort.eraseDups

/-- What a written label that is not ASCII begins with. -/
def marker : List Char := "xn--".toList

/-- A label in ASCII. -/
def encoded (label : List Char) : List Char :=
  if label.all isAscii then label
  else
    let basic := label.filter isAscii
    let start : State := ⟨0, 72, basic.length, []⟩
    let written := (placeAll label basic.length (codes label) 128 start).written
    marker ++ basic ++ (if basic.isEmpty then [] else ['-']) ++ written

/-! ### Reading -/

def digit? (c : Char) : Option Nat :=
  if 'a' ≤ c ∧ c ≤ 'z' then some (c.toNat - 'a'.toNat)
  else if c.isDigit then some (26 + (c.toNat - '0'.toNat))
  else none

/-- The number in front, and what follows it. -/
def number? (bias : Nat) : (k weight : Nat) → List Char → Option (Nat × List Char)
  | _, _, [] => none
  | k, weight, c :: rest => do
    let d ← digit? c
    if d < threshold k bias then return (d * weight, rest)
    let (n, rest) ← number? bias (k + 1) (weight * (36 - threshold k bias)) rest
    return (d * weight + n, rest)

/-- Puts into a label the characters the numbers tell; the last one had this code and
stands before this place. -/
def inserted : (fuel code place bias : Nat) → (label digits : List Char) → Option (List Char)
  | _, _, _, _, label, [] => some label
  | 0, _, _, _, _, _ => none
  | fuel + 1, code, place, bias, label, digits => do
    let (delta, rest) ← number? bias 0 1 digits
    let count := label.length + 1
    let code := code + (place + delta) / count
    let here := (place + delta) % count
    if !code.isValidChar then failure
    let label := label.insertIdx here (Char.ofNat code)
    inserted fuel code (here + 1) (adapted delta count (place == 0)) label rest

/-- The label that is written so after the marker. -/
def decoded? (written : List Char) : Option (List Char) :=
  let digits := (written.reverse.takeWhile (· != '-')).reverse
  let basic := written.take (written.length - digits.length - 1)
  if basic.isEmpty ∧ digits.length < written.length then none
  else if basic.all isAscii then inserted digits.length 128 0 72 basic digits
  else none

end Screens.Punycode
