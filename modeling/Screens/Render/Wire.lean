import Screens.Render.Tree

/-! The wire form of rendered trees.

Encoding leaves out what is absent or empty. Decoding is strict: every part must be
there unless it can be absent, and have its shape. -/
namespace Screens

namespace Strict

abbrev Parts := List (String × Json)

/-- A part that may be missing or `null`, and else must decode. -/
def nullable? {α : Type} (decode : Json → Option α) (name : String) (parts : Parts) :
    Option (Option α) :=
  match parts.lookup name with
  | none | some .null => some none
  | some v => (decode v).map some

def required? {α : Type} (decode : Json → Option α) (name : String) (parts : Parts) : Option α :=
  (parts.lookup name).bind decode

/-- An array whose items all decode. -/
def list? {α : Type} (decode : Json → Option α) (v : Json) : Option (List α) :=
  v.items?.bind (·.mapM decode)

end Strict

namespace RenderKind

def name : RenderKind → String
  | text => "text"
  | button => "button"
  | image => "image"
  | vstack => "vStack"
  | hstack => "hStack"
  | zstack => "zStack"
  | card => "card"
  | list => "list"
  | spacer => "spacer"
  | divider => "divider"
  | unsupported => "unsupported"
  | truncated => "truncated"

def all : List RenderKind :=
  [text, button, image, vstack, hstack, zstack, card, list, spacer, divider, unsupported, truncated]

def decode? (v : Json) : Option RenderKind :=
  v.variant?.bind fun s => all.find? (·.name == s)

end RenderKind

namespace DiagnosticKind

def name : DiagnosticKind → String
  | unresolvedBinding => "unresolvedBinding"
  | unsupportedType => "unsupportedType"
  | missingDataSource => "missingDataSource"
  | depthExceeded => "depthExceeded"
  | listCycle => "listCycle"

def all : List DiagnosticKind :=
  [unresolvedBinding, unsupportedType, missingDataSource, depthExceeded, listCycle]

def decode? (v : Json) : Option DiagnosticKind :=
  v.variant?.bind fun s => all.find? (·.name == s)

end DiagnosticKind

/-! ### Resources -/

namespace Resource

def encodeSource : ImageSource → Json
  | .remote url => .obj [("kind", .str "remote"), ("location", .str url)]
  | .bundled name => .obj [("kind", .str "bundled"), ("location", .str name)]

def decodeSource? (v : Json) : Option ImageSource := do
  let parts ← v.parts? ["kind", "location"]
  let location ← Strict.required? Json.text? "location" parts
  match ← Strict.required? Json.variant? "kind" parts with
  | "remote" => some (.remote location)
  | "bundled" => some (.bundled location)
  | _ => none

def encodeState : ResourceState → List (String × Json)
  | .placeholder => [("state", .str "placeholder")]
  | .bundled => [("state", .str "bundled")]
  | .loaded bytes => [("state", .str "loaded"), ("bytes", .ofCount bytes)]
  | .failed reason => [("state", .str "failed"), ("reason", .str reason)]

/-- The names of the states; a state may also be given by its place here. -/
def stateNames : List String := ["placeholder", "bundled", "loaded", "failed"]

def stateName? : Json → Option String
  | .str s => some s
  | v => v.count?.bind fun n => stateNames[n.toNat]?

def decodeState? (fields : List (String × Json)) : Option ResourceState := do
  match ← Strict.required? stateName? "state" fields with
  | "placeholder" => some .placeholder
  | "bundled" => some .bundled
  | "loaded" => (Strict.required? Json.count? "bytes" fields).map .loaded
  | "failed" => (Strict.required? Json.text? "reason" fields).map .failed
  | _ => none

def encode (r : Resource) : Json :=
  .obj ([("identity", .str r.identity), ("source", encodeSource r.source)] ++ encodeState r.state)

/-- The state is spread over the members of the resource, so it must be an object. -/
def decode? (v : Json) : Option Resource := do
  let fields ← v.fields?
  let identity ← Strict.required? Json.text? "identity" fields
  let source ← Strict.required? decodeSource? "source" fields
  let state ← decodeState? fields
  return { identity, source, state }

end Resource

/-! ### Nodes -/

namespace Face

/-- The members of a node but its children. -/
def encode (f : Face) : List (String × Option Json) :=
  [("identity", some (.str f.identity)), ("kind", some (.str f.kind.name)),
    ("visible", some (.bool f.visible)), ("sourceId", f.sourceId.map .str),
    ("sourceType", f.sourceType.map .str), ("text", f.text.map .str),
    ("style", f.style.map Style.encode), ("action", f.action.map Action.encode),
    ("resource", f.resource.map Resource.encode)]

def decode? (parts : List (String × Json)) : Option Face := do
  let identity ← Strict.required? Json.text? "identity" parts
  let kind ← Strict.required? RenderKind.decode? "kind" parts
  let visible ← Strict.required? Json.bool? "visible" parts
  let sourceId ← Strict.nullable? Json.text? "sourceId" parts
  let sourceType ← Strict.nullable? Json.text? "sourceType" parts
  let text ← Strict.nullable? Json.text? "text" parts
  let style ← Strict.nullable? Style.decode? "style" parts
  let action ← Strict.nullable? Action.decode? "action" parts
  let resource ← Strict.nullable? Resource.decode? "resource" parts
  return { identity, kind, visible, sourceId, sourceType, text, style, action, resource }

end Face

namespace RenderNode

def partNames : List String :=
  ["identity", "kind", "visible", "sourceId", "sourceType", "text", "style", "action", "resource",
    "children"]

mutual

def encode : RenderNode → Json
  | mk face children =>
    .ofMembers (face.encode ++ [("children", Json.nonempty (encodeAll children))])

def encodeAll : List RenderNode → List Json
  | [] => []
  | n :: rest => n.encode :: encodeAll rest

end

/-- A node of at most so many levels. -/
def decodeWithin? : (levels : Nat) → Json → Option RenderNode
  | 0, _ => none
  | levels + 1, v => do
    let parts ← v.parts? partNames
    let face ← Face.decode? parts
    let children ← match parts.lookup "children" with
      | none => some []
      | some inner => Strict.list? (decodeWithin? levels) inner
    return mk face children

/-- A node takes at least one level of its value. -/
def decode? (v : Json) : Option RenderNode := decodeWithin? (v.depth + 1) v

end RenderNode

/-! ### Trees -/

namespace Diagnostic

def encode (d : Diagnostic) : Json :=
  .obj [("identity", .str d.identity), ("kind", .str d.kind.name), ("detail", .str d.detail)]

def decode? (v : Json) : Option Diagnostic := do
  let parts ← v.parts? ["identity", "kind", "detail"]
  let identity ← Strict.required? Json.text? "identity" parts
  let kind ← Strict.required? DiagnosticKind.decode? "kind" parts
  let detail ← Strict.required? Json.text? "detail" parts
  return { identity, kind, detail }

end Diagnostic

namespace Reachable

def encode (r : Reachable) : Json :=
  .obj [("identity", .str r.identity), ("action", r.action.encode)]

def decode? (v : Json) : Option Reachable := do
  let parts ← v.parts? ["identity", "action"]
  let identity ← Strict.required? Json.text? "identity" parts
  let action ← Strict.required? Action.decode? "action" parts
  return { identity, action }

end Reachable

namespace RenderTree

def partNames : List String :=
  ["screenId", "version", "title", "nodes", "actions", "resources", "diagnostics"]

def encode (tree : RenderTree) : Json :=
  .ofMembers [("screenId", some (.str tree.screenId)), ("version", some (.ofCount tree.version)),
    ("title", some (.str tree.title)), ("nodes", some (.arr (RenderNode.encodeAll tree.nodes))),
    ("actions", some (.arr (tree.actions.map Reachable.encode))),
    ("resources", some (.arr (tree.resources.map Resource.encode))),
    ("diagnostics", Json.nonempty (tree.diagnostics.map Diagnostic.encode))]

/-- Only the diagnostics may be missing. -/
def decode? (v : Json) : Option RenderTree := do
  let parts ← v.parts? partNames
  let screenId ← Strict.required? Json.text? "screenId" parts
  let version ← Strict.required? Json.count? "version" parts
  let title ← Strict.required? Json.text? "title" parts
  let nodes ← Strict.required? (Strict.list? RenderNode.decode?) "nodes" parts
  let actions ← Strict.required? (Strict.list? Reachable.decode?) "actions" parts
  let resources ← Strict.required? (Strict.list? Resource.decode?) "resources" parts
  let diagnostics ← match parts.lookup "diagnostics" with
    | none => some []
    | some v => Strict.list? Diagnostic.decode? v
  return { screenId, version, title, nodes, actions, resources, diagnostics }

end RenderTree
end Screens
