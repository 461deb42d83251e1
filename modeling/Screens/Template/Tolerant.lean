import Screens.Json.Record

/-! Parts of a template that may be missing or malformed.

A part of the wrong shape reads as absent instead of failing the whole: a screen
is drawn without the broken part. -/
namespace Screens.Tolerant

abbrev Parts := List (String × Json)

/-- The part, if it is there and well-formed. -/
def optional {α : Type} (decode : Json → Option α) (name : String) (parts : Parts) : Option α :=
  (parts.lookup name).bind decode

/-- The text of a scalar part, empty for anything else. -/
def scalar (name : String) (parts : Parts) : String :=
  (optional Json.scalar? name parts).getD ""

/-- The well-formed items of a part that is an array. -/
def sequence {α : Type} (decode : Json → Option α) (name : String) (parts : Parts) : List α :=
  ((optional Json.items? name parts).getD []).filterMap decode

/-- The scalar members of a part that is an object, as text. -/
def scalars (name : String) (parts : Parts) : Keyed String :=
  .ofList (((optional Json.fields? name parts).getD []).filterMap fun m =>
    m.2.scalar?.map (m.1, ·))

end Screens.Tolerant
