import Screens.Json.Reader

/-! Records: values with named parts.

A record is written as an object, or as an array of its parts in order. In an
object every other key is passed over; a known key that comes twice, or a part
of the wrong kind, is a mismatch at the place where it stands. In an array parts
may be missing at the end, none may be added. -/
namespace Screens.Json

/-! ### In a value -/

/-- The members of a record with parts in this order. -/
def parts? (names : List String) : Json → Option (List (String × Json))
  | obj fields => some fields
  | arr items => if items.length ≤ names.length then some (names.zip items) else none
  | _ => none

/-- The name of a unit variant: a string, or an object with that one key and `null`. -/
def variant? : Json → Option String
  | str s => some s
  | obj [(name, null)] => some name
  | _ => none

/-! ### In a text -/

/-- What a part of a record must be. -/
inductive PartKind where
  | text
  | object
  | any
deriving DecidableEq

structure Part where
  name : String
  kind : PartKind
  required : Bool

/-- Refuses a value that is not of the kind asked for. A leaf is read first, so that
a fault of its own comes before the mismatch. -/
def mismatch {α : Type} (fuel : Nat) (first : UInt8) : Reader α := do
  if first ≠ 91 ∧ first ≠ 123 then discard (leaf fuel first)
  throw .mismatched

def PartKind.admits (kind : PartKind) (first : UInt8) : Bool :=
  match kind with
  | .text => first == 34
  | .object => first == 123
  | .any => true

/-- One part, in canonical form. -/
def partValue (kind : PartKind) (fuel room : Nat) : Reader Json := do
  let first ← nextMark
  if !kind.admits first then mismatch fuel first
  putBack first
  return (← value fuel room).canonical

/-- The members of a record that has one, to the closing bracket; `got` are the
parts read so far. -/
def recordMembers (parts : List Part) (room : Nat) :
    (fuel : Nat) → (got : List (String × Json)) → Reader (List (String × Json))
  | 0, _ => throw .ended
  | fuel + 1, got => do
    let k ← key fuel
    let got ← match parts.find? (·.name == k) with
      | some part => do
        if (got.lookup k).isSome then throw .mismatched
        expect 58
        pure (got ++ [(k, ← partValue part.kind fuel room)])
      | none => do
        expect 58
        skip fuel
        pure got
    if ← moreItems 125 then recordMembers parts room fuel got else return got

/-- The parts in order, as items of an array; an item past the last part is malformed. -/
def recordItems (fuel room : Nat) : (parts : List Part) → Reader (List (String × Json))
  | [] => throw .malformed
  | part :: parts => do
    let v ← partValue part.kind fuel room
    if ← moreItems 93 then return (part.name, v) :: (← recordItems fuel room parts)
    else return [(part.name, v)]

/-- A part that has to be there is missing. -/
def lacks (parts : List Part) (got : List (String × Json)) : Bool :=
  parts.any fun p => p.required && (got.lookup p.name).isNone

/-- A record of these parts; `room` counts its own level. -/
def record? (parts : List Part) (room : Nat) : Reader (List (String × Json)) := do
  let fuel := steps (← get)
  let first ← nextMark
  let got ←
    if first = 123 then
      if ← takes 125 then pure []
      else recordMembers parts (room - 1) fuel []
    else if first = 91 then
      if ← takes 93 then pure []
      else recordItems fuel (room - 1) parts
    else mismatch fuel first
  if lacks parts got then throw .mismatched
  return got

/-- A whole text as a record of these parts. -/
def readRecord (parts : List Part) (room : Nat) (bytes : Bytes) :
    Except Fault (List (String × Json)) :=
  (whole (record? parts room)).run' bytes

end Screens.Json
