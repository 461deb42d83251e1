import Screens.Template.Tolerant

/-! Conditions on the environment, as a template states them. -/
namespace Screens

/-- How a binding is compared with the literal. An operator nobody knows is kept as
`unknown`; it never holds. -/
inductive Operator where
  | equals
  | notEquals
  | contains
  | notContains
  | greaterThan
  | greaterThanOrEqual
  | lessThan
  | lessThanOrEqual
  | present
  | unknown
deriving DecidableEq

namespace Operator

def name : Operator → String
  | equals => "equals"
  | notEquals => "notEquals"
  | contains => "contains"
  | notContains => "notContains"
  | greaterThan => "greaterThan"
  | greaterThanOrEqual => "greaterThanOrEqual"
  | lessThan => "lessThan"
  | lessThanOrEqual => "lessThanOrEqual"
  | present => "exists"
  | unknown => "unknown"

/-- The spellings an operator has besides its name. -/
def aliases : Operator → List String
  | equals => ["==", "eq"]
  | notEquals => ["!=", "ne"]
  | greaterThan => [">", "gt"]
  | greaterThanOrEqual => [">=", "gte"]
  | lessThan => ["<", "lt"]
  | lessThanOrEqual => ["<=", "lte"]
  | contains | notContains | present | unknown => []

def known : List Operator :=
  [equals, notEquals, contains, notContains, greaterThan, greaterThanOrEqual, lessThan,
    lessThanOrEqual, present]

/-- The operator a spelling stands for. -/
def ofName (s : String) : Operator :=
  (known.find? fun o => o.name == s || o.aliases.contains s).getD unknown

def decode? (v : Json) : Option Operator := v.variant?.map ofName

end Operator

/-- `field` is a path into the environment, `value` the literal it is compared with. -/
structure Condition where
  field : String
  operator : Operator
  value : String
deriving DecidableEq

namespace Condition

def partNames : List String := ["field", "operator", "value"]

/-- Any record is a condition; a missing or malformed operator is unknown. -/
def decode? (v : Json) : Option Condition :=
  (v.parts? partNames).map fun parts =>
    { field := Tolerant.scalar "field" parts
      operator := (Tolerant.optional Operator.decode? "operator" parts).getD .unknown
      value := Tolerant.scalar "value" parts }

def encode (c : Condition) : Json :=
  .obj [("field", .str c.field), ("operator", .str c.operator.name), ("value", .str c.value)]

end Condition
end Screens
