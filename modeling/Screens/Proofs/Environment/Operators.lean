import Screens.Environment.Holds

/-! The operators of conditions together.

What an operator admits depends on the binding the field looks up to and on the literal alone
(`holds_eq`). Of a number and a literal that reads as a number the six comparisons tell the
order of their ranks (`tells_order`); of anything else equality goes by the text and nothing
is ordered. So the operators agree with each other, whatever the binding and the literal
(`operators_consistent`). -/
namespace Screens

/-- Whether an operator admits a binding that is there. -/
def Operator.admits (op : Operator) (actual : Json) (literal : String) : Bool :=
  match op with
  | .present => true
  | .equals => Condition.scalarEquals? actual literal == some true
  | .notEquals => Condition.scalarEquals? actual literal == some false
  | .contains => Condition.contains? actual literal == some true
  | .notContains => Condition.contains? actual literal == some false
  | .greaterThan => (Condition.compare? actual literal).any (·.isGT)
  | .greaterThanOrEqual => (Condition.compare? actual literal).any (·.isGE)
  | .lessThan => (Condition.compare? actual literal).any (·.isLT)
  | .lessThanOrEqual => (Condition.compare? actual literal).any (·.isLE)
  | .unknown => false

namespace Condition

theorem holds_eq (c : Condition) (scope : Scope) :
    c.holds scope = (scope.lookup c.field).any (c.operator.admits · c.value) := by
  rw [holds]
  cases scope.lookup c.field with
  | none => rfl
  | some actual => cases c.operator <;> rfl

theorem holds_of_lookup {field literal : String} {scope : Scope} {actual : Json}
    (h : scope.lookup field = some actual) (op : Operator) :
    (Condition.mk field op literal).holds scope = op.admits actual literal := by
  rw [holds_eq, h]
  rfl

/-- The six comparisons tell which of two numbers is the greater. -/
structure Tells (holds : Operator → Bool) (a b : Int) : Prop where
  equals : holds .equals ↔ a = b
  notEquals : holds .notEquals ↔ a ≠ b
  lessThan : holds .lessThan ↔ a < b
  lessThanOrEqual : holds .lessThanOrEqual ↔ a ≤ b
  greaterThan : holds .greaterThan ↔ a > b
  greaterThanOrEqual : holds .greaterThanOrEqual ↔ a ≥ b

variable {literal : String} {n : Number} {m : Numeral}

theorem scalarEquals?_num (h : numeral? literal = some m) :
    scalarEquals? (.num n) literal = some (m.rank? == some n.toDouble.rank) := by
  simp only [scalarEquals?, h]

theorem compare?_num (h : numeral? literal = some m) :
    compare? (.num n) literal = m.rank?.map (compare n.toDouble.rank) := by
  unfold compare?
  rw [h]
  cases hr : m.rank? <;> simp [hr, Json.double?]

/-- Numbers are compared by their ranks. -/
theorem tells_order (h : numeral? literal = some m) {r : Int} (hr : m.rank? = some r) :
    Tells (fun op => op.admits (.num n) literal) n.toDouble.rank r := by
  have hequals := scalarEquals?_num (n := n) h
  have hcompare := compare?_num (n := n) h
  rw [hr] at hequals hcompare
  constructor
  · simpa [Operator.admits, hequals] using eq_comm
  · simpa [Operator.admits, hequals] using ne_comm
  · simp [Operator.admits, hcompare, Ordering.isLT_iff_eq_lt, Int.compare_eq_lt]
  · simp [Operator.admits, hcompare, Int.isLE_compare]
  · simp [Operator.admits, hcompare, Int.compare_eq_gt]
  · simp [Operator.admits, hcompare, Int.isGE_compare]

/-! ### Kinds of bindings -/

/-- A string, a number or a truth value. -/
inductive IsScalar : Json → Prop
  | str (s : String) : IsScalar (.str s)
  | num (n : Number) : IsScalar (.num n)
  | bool (b : Bool) : IsScalar (.bool b)

/-- What something can be inside of: a string or an array. -/
inductive IsHolder : Json → Prop
  | str (s : String) : IsHolder (.str s)
  | arr (items : List Json) : IsHolder (.arr items)

/-- A number, and a literal that reads as one. -/
def Comparable (v : Json) (literal : String) : Prop :=
  ∃ n m, v = .num n ∧ numeral? literal = some m ∧ m ≠ .notANumber

theorem scalarEquals?_isSome (v : Json) (literal : String) :
    (scalarEquals? v literal).isSome ↔ IsScalar v := by
  cases v with
  | num n =>
    have hsome : (scalarEquals? (.num n) literal).isSome := by
      cases h : numeral? literal <;> simp [scalarEquals?, h, Json.scalar?]
    exact ⟨fun _ => .num n, fun _ => hsome⟩
  | str s => exact ⟨fun _ => .str s, fun _ => rfl⟩
  | bool b => exact ⟨fun _ => .bool b, fun _ => rfl⟩
  | null | arr _ | obj _ => exact ⟨nofun, nofun⟩

theorem contains?_isSome (v : Json) (literal : String) :
    (contains? v literal).isSome ↔ IsHolder v := by
  cases v with
  | str s => exact ⟨fun _ => .str s, fun _ => rfl⟩
  | arr items => exact ⟨fun _ => .arr items, fun _ => rfl⟩
  | null | bool _ | num _ | obj _ => exact ⟨nofun, nofun⟩

theorem compare?_isSome (v : Json) (literal : String) :
    (compare? v literal).isSome ↔ Comparable v literal := by
  cases v with
  | num n =>
    cases h : numeral? literal with
    | none => simp [compare?, Comparable, h]
    | some m => cases m <;> simp [compare?_num h, Comparable, h, Numeral.rank?]
  | null | bool _ | str _ | arr _ | obj _ => simp [compare?, Comparable, Json.double?]

/-- Of a test and the opposite one, at most one comes out, and one if there is an answer. -/
theorem answer_exclusive (answer : Option Bool) :
    ¬ ((answer == some true) = true ∧ (answer == some false) = true) := by
  cases answer with
  | none => nofun
  | some b => cases b <;> nofun

theorem answer_decided (answer : Option Bool) :
    ((answer == some true) = true ∨ (answer == some false) = true) ↔ answer.isSome := by
  cases answer with
  | none => simp
  | some b => cases b <;> simp

/-- Exactly one of three. -/
def OneOf (a b c : Prop) : Prop := (a ∧ ¬ b ∧ ¬ c) ∨ (¬ a ∧ b ∧ ¬ c) ∨ (¬ a ∧ ¬ b ∧ c)

/-- What the operators owe each other, for a binding that may be absent and a literal. -/
structure Consistent (binding : Option Json) (literal : String) (holds : Operator → Bool) :
    Prop where
  /-- Nothing holds of what is absent. -/
  absent : binding = none → ∀ op, holds op = false
  equality_exclusive : ¬ (holds .equals ∧ holds .notEquals)
  /-- A scalar equals the literal or does not; other values do neither. -/
  equality_decided : (holds .equals ∨ holds .notEquals) ↔ ∃ v, binding = some v ∧ IsScalar v
  containment_exclusive : ¬ (holds .contains ∧ holds .notContains)
  /-- A string or an array has the literal in it or does not. -/
  containment_decided : (holds .contains ∨ holds .notContains) ↔ ∃ v, binding = some v ∧ IsHolder v
  present : holds .present ↔ ∃ v, binding = some v
  /-- Two numbers are equal or one of them is less. -/
  ordered : ∀ v, binding = some v → Comparable v literal →
    OneOf (holds .lessThan) (holds .equals) (holds .greaterThan) ∧
    (holds .lessThanOrEqual ↔ holds .lessThan ∨ holds .equals) ∧
    (holds .greaterThanOrEqual ↔ holds .greaterThan ∨ holds .equals)
  /-- Nothing but numbers is ordered. -/
  unordered : (∀ v, binding = some v → ¬ Comparable v literal) →
    ∀ op ∈ [Operator.lessThan, .lessThanOrEqual, .greaterThan, .greaterThanOrEqual],
      holds op = false
  unknown : holds .unknown = false

/-- Whatever a field looks up to, the operators agree with each other on it. -/
theorem operators_consistent (field literal : String) (scope : Scope) :
    Consistent (scope.lookup field) literal fun op => Condition.holds ⟨field, op, literal⟩ scope := by
  cases hbinding : scope.lookup field with
  | none =>
    have hfalse : ∀ op, Condition.holds ⟨field, op, literal⟩ scope = false := fun op => by
      rw [holds_eq, hbinding]
      rfl
    constructor <;> simp [hfalse]
  | some v =>
    have hadmits : ∀ op, Condition.holds ⟨field, op, literal⟩ scope = op.admits v literal :=
      holds_of_lookup hbinding
    simp only [hadmits]
    refine ⟨nofun, answer_exclusive _, ?_, answer_exclusive _, ?_, ?_, ?_, ?_, rfl⟩
    · refine (answer_decided (scalarEquals? v literal)).trans ?_
      rw [scalarEquals?_isSome]
      simp
    · refine (answer_decided (contains? v literal)).trans ?_
      rw [contains?_isSome]
      simp
    · exact ⟨fun _ => ⟨v, rfl⟩, fun _ => rfl⟩
    · rintro _ ⟨⟩ ⟨n, m, rfl, hm, hnan⟩
      obtain ⟨r, hr⟩ : ∃ r, m.rank? = some r := by
        cases m with
        | notANumber => exact absurd rfl hnan
        | finite | infinite => exact ⟨_, rfl⟩
      have htells := tells_order (n := n) hm hr
      rw [OneOf, htells.lessThan, htells.equals, htells.greaterThan, htells.lessThanOrEqual,
        htells.greaterThanOrEqual]
      omega
    · intro hnot op hop
      have hnone : compare? v literal = none := by
        rw [← Option.not_isSome_iff_eq_none, compare?_isSome]
        exact hnot v rfl
      simp only [List.mem_cons, List.not_mem_nil, or_false] at hop
      rcases hop with rfl | rfl | rfl | rfl <;> simp [Operator.admits, hnone]

def threeRooms : Scope := .root (.ofJson (.obj [("rooms", .ofCount 3)]))

/-- A number is as much as the literal that reads as it. What is no number differs from every
number and is ordered with none. -/
theorem threeRooms_consistent :
    (Consistent (threeRooms.lookup "rooms") " 3e0 " fun op =>
      Condition.holds ⟨"rooms", op, " 3e0 "⟩ threeRooms) ∧
    Comparable (.ofCount 3) " 3e0 " ∧
    ([.equals, .notEquals, .lessThan, .lessThanOrEqual, .greaterThan, .greaterThanOrEqual].map
      fun op => Condition.holds ⟨"rooms", op, " 3e0 "⟩ threeRooms) =
        [true, false, false, true, false, true] ∧
    (Consistent (threeRooms.lookup "rooms") " nan " fun op =>
      Condition.holds ⟨"rooms", op, " nan "⟩ threeRooms) ∧
    ¬ Comparable (.ofCount 3) " nan " ∧
    ([.equals, .notEquals, .lessThan, .lessThanOrEqual, .greaterThan, .greaterThanOrEqual].map
      fun op => Condition.holds ⟨"rooms", op, " nan "⟩ threeRooms) =
        [false, true, false, false, false, false] := by
  have hthree : (compare? (.ofCount 3) " 3e0 ").isSome = true := by decide +kernel
  have hnan : (compare? (.ofCount 3) " nan ").isSome = false := by decide +kernel
  refine ⟨operators_consistent "rooms" " 3e0 " threeRooms, (compare?_isSome _ _).1 hthree,
    by decide +kernel, operators_consistent "rooms" " nan " threeRooms, ?_, by decide +kernel⟩
  rw [← compare?_isSome, hnan]
  nofun

end Condition
end Screens
