import Screens.Environment.Basic
import Screens.Number.Numeral
import Screens.Template.Condition
import Screens.Text.Blank

/-! When a condition holds.

A missing binding, an unknown operator and operands that cannot be compared make a
condition false. Numbers compare as doubles with a literal that reads as a
numeral; a string compares as text even if it looks like a number. -/
namespace Screens.Condition

/-- The numeral a literal stands for, blanks around it aside. -/
def numeral? (literal : String) : Option Numeral := Numeral.ofChars? (trimBlank literal.toList)

/-- Whether a scalar equals the literal; `none` for other values. -/
def scalarEquals? (actual : Json) (literal : String) : Option Bool :=
  match actual, numeral? literal with
  | .num n, some m => some (m.rank? == some n.toDouble.rank)
  | _, _ => actual.scalar?.map (· == literal)

/-- The part occurs in the text, at the start or later. -/
def occursIn (part : List Char) : List Char → Bool
  | [] => part.isEmpty
  | c :: rest => part.isPrefixOf (c :: rest) || occursIn part rest

/-- Whether an array has an item equal to the literal, or a string has it inside. -/
def contains? (actual : Json) (literal : String) : Option Bool :=
  match actual with
  | .arr items => some (items.any fun item => scalarEquals? item literal == some true)
  | .str s => some (occursIn literal.toList s.toList)
  | _ => none

/-- How a number compares with the literal. -/
def compare? (actual : Json) (literal : String) : Option Ordering := do
  let a ← actual.double?
  let b ← (← numeral? literal).rank?
  return compare a.rank b

def holds (c : Condition) (scope : Scope) : Bool :=
  match scope.lookup c.field with
  | none => false
  | some actual =>
    match c.operator with
    | .present => true
    | .equals => scalarEquals? actual c.value == some true
    | .notEquals => scalarEquals? actual c.value == some false
    | .contains => contains? actual c.value == some true
    | .notContains => contains? actual c.value == some false
    | .greaterThan => (compare? actual c.value).any (·.isGT)
    | .greaterThanOrEqual => (compare? actual c.value).any (·.isGE)
    | .lessThan => (compare? actual c.value).any (·.isLT)
    | .lessThanOrEqual => (compare? actual c.value).any (·.isLE)
    | .unknown => false

/-- Every condition holds; none to check is enough. -/
def allHold (conditions : List Condition) (scope : Scope) : Bool :=
  conditions.all (·.holds scope)

end Screens.Condition
