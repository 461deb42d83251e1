/-! Reading a text from the front.

A scan takes characters from the front of a text and leaves the rest, or fails and
takes nothing. -/
namespace Screens

abbrev Scan := StateT (List Char) Option

namespace Scan

/-- The next character. -/
def next : Scan Char
  | [] => none
  | c :: rest => some (c, rest)

/-- The next character, which stays where it is. -/
def peek : Scan Char
  | [] => none
  | c :: rest => some (c, c :: rest)

/-- The character has to come next. -/
def mark (c : Char) : Scan Unit
  | d :: rest => if d = c then some ((), rest) else none
  | [] => none

/-- The characters have to come next. -/
def marks : List Char → Scan Unit
  | [] => pure ()
  | c :: cs => do mark c; marks cs

/-- As many characters of a class as come. -/
def run (p : Char → Bool) : Scan (List Char) := fun cs => some (cs.takeWhile p, cs.dropWhile p)

/-- What comes, if it can be read; nothing is taken where it cannot. -/
def optional {α : Type} (scan : Scan α) : Scan (Option α) := fun cs =>
  match scan cs with
  | some (a, rest) => some (some a, rest)
  | none => some (none, cs)

/-- Whether the character comes next; takes it if so. -/
def takes (c : Char) : Scan Bool := do return (← optional (mark c)).isSome

/-- How much of the text is left. -/
def left : Scan Nat := fun cs => some (cs.length, cs)

/-- A whole text. -/
def whole {α : Type} (scan : Scan α) (cs : List Char) : Option α :=
  match scan cs with
  | some (a, []) => some a
  | _ => none

end Scan

/-- The value of a run of decimal digits. -/
def digitsValue (digits : List Char) : Nat :=
  digits.foldl (fun n c => 10 * n + (c.toNat - '0'.toNat)) 0

/-- The value of a digit in a base up to sixteen, letters in any case. -/
def digitValue? (base : Nat) (c : Char) : Option Nat :=
  let n := c.toNat
  let value :=
    if c.isDigit then n - '0'.toNat
    else if 'a' ≤ c ∧ c ≤ 'f' then n - 'a'.toNat + 10
    else if 'A' ≤ c ∧ c ≤ 'F' then n - 'A'.toNat + 10
    else base
  if value < base then some value else none

/-- The value of a run of digits in a base up to sixteen. -/
def valueIn (base : Nat) (digits : List Char) : Nat :=
  digits.foldl (fun n c => base * n + (digitValue? base c).getD 0) 0

end Screens
