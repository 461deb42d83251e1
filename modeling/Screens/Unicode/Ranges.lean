import Screens.Text.Scan

/-! Sets of characters as ranges of code points.

A set is written as lines of ranges in hexadecimal, with spaces between them: `a-b` for
the code points from `a` to `b`, `a` for one alone. -/
namespace Screens.Unicode

/-- The code points from a first to a last one. -/
structure CodeRange where
  first : Nat
  last : Nat
deriving DecidableEq

namespace CodeRange

def ofText (s : String) : CodeRange :=
  match s.splitOn "-" with
  | [first, last] => ⟨valueIn 16 first.toList, valueIn 16 last.toList⟩
  | _ => ⟨valueIn 16 s.toList, valueIn 16 s.toList⟩

def contains (range : CodeRange) (c : Char) : Bool := range.first ≤ c.toNat && c.toNat ≤ range.last

end CodeRange

structure CodeRanges where
  ranges : List CodeRange
deriving DecidableEq

namespace CodeRanges

def ofLines (lines : List String) : CodeRanges :=
  ⟨lines.flatMap fun line => (line.splitOn " ").map CodeRange.ofText⟩

def contains (set : CodeRanges) (c : Char) : Bool := set.ranges.any (·.contains c)

end CodeRanges

def isAscii (c : Char) : Bool := c.toNat < 128

end Screens.Unicode
