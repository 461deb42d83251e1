import Screens.Text.Scan
import Screens.Text.Utf8

/-! Percent escapes, in paths and in form data.

`%` and two hexadecimal digits stand for a byte; a `%` without them stands for itself.
In form data, which is pairs of a key and a value, `+` stands for a space. -/
namespace Screens.Percent

def hexDigit? (b : UInt8) : Option Nat := digitValue? 16 (Char.ofNat b.toNat)

/-- The byte two hexadecimal digits stand for. -/
def escaped? (high low : UInt8) : Option UInt8 := do
  return UInt8.ofNat (16 * (← hexDigit? high) + (← hexDigit? low))

/-- The bytes with their escapes resolved. -/
def decoded : List UInt8 → List UInt8
  | 37 :: high :: low :: rest =>
    match escaped? high low with
    | some b => b :: decoded rest
    | none => 37 :: decoded (high :: low :: rest)
  | b :: rest => b :: decoded rest
  | [] => []

/-- The text of a path's segment, if its bytes are UTF-8. -/
def segment? (s : String) : Option String := Utf8.text? (decoded s.toUTF8.toList)

/-- A key or a value of form data. -/
def formText (cs : List Char) : String :=
  let bytes := (String.ofList cs).toUTF8.toList
  Utf8.tolerant (decoded (bytes.map fun b => if b = 43 then 32 else b))

/-- A key and its value, or a key alone. -/
def formPair (piece : String) : String × String :=
  let cs := piece.toList
  (formText (cs.takeWhile (· != '=')), formText ((cs.dropWhile (· != '=')).drop 1))

/-- The pairs of form data, in order. -/
def formPairs (s : String) : List (String × String) :=
  ((s.splitOn "&").filter (!·.isEmpty)).map formPair

end Screens.Percent
