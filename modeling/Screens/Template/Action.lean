import Screens.Template.Tolerant

/-! Actions: what a user sets off. They are packaged here and carried out elsewhere. -/
namespace Screens

/-- `kind` is free-form; whoever carries the action out gives it its meaning. -/
structure Action where
  kind : String
  target : String
  parameters : Keyed String
deriving DecidableEq

namespace Action

def ofTarget (kind target : String) : Action := ⟨kind, target, .empty⟩

def withParameter (a : Action) (key value : String) : Action :=
  { a with parameters := a.parameters.insert key value }

def partNames : List String := ["type", "target", "parameters"]

/-- A record with a textual `type`. -/
def decode? (v : Json) : Option Action := do
  let parts ← v.parts? partNames
  let kind ← Tolerant.optional Json.text? "type" parts
  return ⟨kind, Tolerant.scalar "target" parts, Tolerant.scalars "parameters" parts⟩

def encodeParameters (parameters : Keyed String) : Option Json :=
  if parameters.entries.isEmpty then none
  else some (.obj (parameters.map Json.str).entries)

def encode (a : Action) : Json :=
  .ofMembers [("type", some (.str a.kind)), ("target", some (.str a.target)),
    ("parameters", encodeParameters a.parameters)]

end Action
end Screens
