import Screens.Keyed
import Screens.Number.Text

/-! JSON values.

A number is an exact integer from `-2 ^ 63` to `2 ^ 64 - 1` or a finite double;
`1` and `1.0` are different values. An object is a list of members: as it was
written, or in canonical form, where keys ascend and of a repeated key the last
value stays. The rest of the library works on canonical values. -/
namespace Screens

/-- The integers kept exactly. -/
abbrev Number.InRange (n : Int) : Prop :=
  -9223372036854775808 ≤ n ∧ n < 18446744073709551616

inductive Number where
  | integer (n : Int) (range : Number.InRange n)
  | decimal (x : Double)
deriving DecidableEq

namespace Number

def ofNat? (n : Nat) : Option Number :=
  if h : InRange n then some (.integer n h) else none

/-- A 64-bit count as a number. -/
def ofCount (n : UInt64) : Number :=
  .integer n.toNat ⟨by omega, by have := n.toNat_lt; omega⟩

/-- The value of an integer from 0 to `2 ^ 64 - 1`. -/
def count? : Number → Option UInt64
  | integer n _ => if 0 ≤ n then some (UInt64.ofNat n.toNat) else none
  | decimal _ => none

/-- The nearest double. -/
def toDouble : Number → Double
  | integer n _ => (Double.ofInt? n).getD (.zero false)
  | decimal x => x

def chars : Number → List Char
  | integer n _ => (toString n).toList
  | decimal x => x.chars .standard

def text (n : Number) : String := String.ofList n.chars

end Number

inductive Json where
  | null
  | bool (b : Bool)
  | num (n : Number)
  | str (s : String)
  | arr (items : List Json)
  | obj (fields : List (String × Json))

namespace Json

instance : Inhabited Json := ⟨null⟩

/-! ### Equality -/

mutual

def decEq : (a b : Json) → Decidable (a = b)
  | null, null => isTrue rfl
  | bool a, bool b => if h : a = b then isTrue (h ▸ rfl) else isFalse (by simpa using h)
  | num a, num b => if h : a = b then isTrue (h ▸ rfl) else isFalse (by simpa using h)
  | str a, str b => if h : a = b then isTrue (h ▸ rfl) else isFalse (by simpa using h)
  | arr a, arr b => match decEqItems a b with
    | isTrue h => isTrue (h ▸ rfl)
    | isFalse h => isFalse (by simpa using h)
  | obj a, obj b => match decEqFields a b with
    | isTrue h => isTrue (h ▸ rfl)
    | isFalse h => isFalse (by simpa using h)
  | null, bool _ | null, num _ | null, str _ | null, arr _ | null, obj _
  | bool _, null | bool _, num _ | bool _, str _ | bool _, arr _ | bool _, obj _
  | num _, null | num _, bool _ | num _, str _ | num _, arr _ | num _, obj _
  | str _, null | str _, bool _ | str _, num _ | str _, arr _ | str _, obj _
  | arr _, null | arr _, bool _ | arr _, num _ | arr _, str _ | arr _, obj _
  | obj _, null | obj _, bool _ | obj _, num _ | obj _, str _ | obj _, arr _ =>
    isFalse (by simp)

def decEqItems : (a b : List Json) → Decidable (a = b)
  | [], [] => isTrue rfl
  | [], _ :: _ | _ :: _, [] => isFalse (by simp)
  | x :: xs, y :: ys => match decEq x y, decEqItems xs ys with
    | isTrue h, isTrue hs => isTrue (h ▸ hs ▸ rfl)
    | isFalse h, _ => isFalse (by simp [h])
    | _, isFalse h => isFalse (by simp [h])

def decEqFields : (a b : List (String × Json)) → Decidable (a = b)
  | [], [] => isTrue rfl
  | [], _ :: _ | _ :: _, [] => isFalse (by simp)
  | (k, x) :: xs, (l, y) :: ys =>
    if hk : k = l then match decEq x y, decEqFields xs ys with
      | isTrue h, isTrue hs => isTrue (hk ▸ h ▸ hs ▸ rfl)
      | isFalse h, _ => isFalse (by simp [h])
      | _, isFalse h => isFalse (by simp [h])
    else isFalse (by simp [hk])

end

instance : DecidableEq Json := decEq

/-! ### Canonical form -/

mutual

/-- Members in key order throughout, the last value of a repeated key. -/
def canonical : Json → Json
  | arr items => arr (canonicalItems items)
  | obj fields => obj (Entries.ofList (canonicalFields fields))
  | v => v

def canonicalItems : List Json → List Json
  | [] => []
  | v :: rest => v.canonical :: canonicalItems rest

def canonicalFields : List (String × Json) → List (String × Json)
  | [] => []
  | (k, v) :: rest => (k, v.canonical) :: canonicalFields rest

end

/-! ### Depth -/

mutual

/-- The levels of arrays and objects. -/
def depth : Json → Nat
  | arr items => depthItems items + 1
  | obj fields => depthFields fields + 1
  | _ => 0

def depthItems : List Json → Nat
  | [] => 0
  | v :: rest => max v.depth (depthItems rest)

def depthFields : List (String × Json) → Nat
  | [] => 0
  | (_, v) :: rest => max v.depth (depthFields rest)

end

/-! ### Reading values -/

def isNull : Json → Bool
  | null => true
  | _ => false

def text? : Json → Option String
  | str s => some s
  | _ => none

def bool? : Json → Option Bool
  | bool b => some b
  | _ => none

def items? : Json → Option (List Json)
  | arr items => some items
  | _ => none

def fields? : Json → Option (List (String × Json))
  | obj fields => some fields
  | _ => none

def count? : Json → Option UInt64
  | num n => n.count?
  | _ => none

def double? : Json → Option Double
  | num n => some n.toDouble
  | _ => none

/-- Neither an array nor an object. -/
def isLeaf : Json → Bool
  | arr _ | obj _ => false
  | _ => true

/-- The name of a value's type. -/
def typeName : Json → String
  | null => "null"
  | bool _ => "boolean"
  | num _ => "number"
  | str _ => "string"
  | arr _ => "array"
  | obj _ => "object"

/-- The text of a string, number or truth value; nothing else has one. -/
def scalar? : Json → Option String
  | str s => some s
  | num n => some n.text
  | bool b => some (if b then "true" else "false")
  | null | arr _ | obj _ => none

/-! ### Building values -/

def ofCount (n : UInt64) : Json := num (.ofCount n)

def ofDouble (x : Double) : Json := num (.decimal x)

/-- An object of the members that are present, in the order given. -/
def ofMembers (members : List (String × Option Json)) : Json :=
  obj (members.filterMap fun m => m.2.map (m.1, ·))

/-- A list left out when empty. -/
def nonempty (items : List Json) : Option Json :=
  if items.isEmpty then none else some (arr items)

end Json
end Screens
