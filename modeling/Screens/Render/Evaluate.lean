import Screens.Environment.Holds
import Screens.Environment.Interpolation
import Screens.Render.Tree
import Screens.Template.Document

/-! Evaluating a template.

For each node: past the depth limit it is truncated; if its conditions do not all
hold it is hidden, with nothing inside; if it is not supported a placeholder stands
for it. Otherwise its texts are filled in, then the nodes inside it are evaluated,
then its action is packaged. A list is evaluated once per item of its data source,
the item in scope; a list whose source an ancestor is expanding is truncated.

A fault at a node leaves a degraded node and a diagnostic; it never fails the whole.
Diagnostics are listed in the order in which the faults are met. -/
namespace Screens

/-- The depth limit where none is given. -/
def standardDepth : Nat := 32

/-- The identity of the parent of the top-level nodes. -/
def rootIdentity : String := "$"

/-- Where a node stands while it is evaluated. -/
structure Site where
  scope : Scope
  /-- The identity of the list item around the node. -/
  owner : Option String
  /-- The data sources of the lists around it. -/
  expanding : List String
  depth : Nat

namespace Site

def top (env : Environment) : Site := ⟨.root env, none, [], 0⟩

def inside (s : Site) : Site := { s with depth := s.depth + 1 }

/-- Inside an item of a list. -/
def atItem (s : Site) (source : String) (identity : String) (item : Json) : Site :=
  { scope := s.scope.withItem item
    owner := some identity
    expanding := source :: s.expanding
    depth := s.depth + 1 }

end Site

/-- Something evaluated, and the faults met on the way. -/
abbrev Evaluated (α : Type) := α × List Diagnostic

namespace Evaluate

/-- The identity of the child at a place: its id, after the owner's identity inside a
list item; without an id its place below the parent. -/
def childIdentity (child : Node) (parent : String) (index : Nat) (owner : Option String) : String :=
  match child.id?, owner with
  | some id, some owner => s!"{owner}/{id}"
  | some id, none => id
  | none, _ => s!"{parent}/{index}"

def itemIdentity (list : String) (index : Nat) : String := s!"{list}#{index}"

def kindOf : Node → RenderKind
  | .text .. => .text
  | .button .. => .button
  | .image .. => .image
  | .container _ .vstack _ => .vstack
  | .container _ .hstack _ => .hstack
  | .container _ .zstack _ => .zstack
  | .container _ .card _ => .card
  | .list .. => .list
  | .spacer _ => .spacer
  | .divider _ => .divider
  | .unsupported .. => .unsupported

/-- A face with nothing on it. -/
def blank (identity : String) (kind : RenderKind) : Face :=
  { identity, kind, visible := true, sourceId := none, sourceType := none, text := none
    style := none, action := none, resource := none }

/-! ### Texts -/

/-- A text with its tokens replaced; each without a binding is a fault. -/
def fill (scope : Scope) (identity : String) (template : String) : Evaluated String :=
  if Interpolation.hasTokens template then
    let r := Interpolation.interpolate template scope
    (r.text, r.unresolved.map fun path =>
      ⟨identity, .unresolvedBinding, s!"no binding for `{path}`"⟩)
  else (template, [])

/-- An action with its target and then its parameters filled in. -/
def package (scope : Scope) (identity : String) (a : Action) : Evaluated Action :=
  let target := fill scope identity a.target
  ({ a with
      target := target.1
      parameters := a.parameters.map fun v => (fill scope identity v).1 },
    target.2 ++ a.parameters.entries.flatMap fun e => (fill scope identity e.2).2)

def locate (scope : Scope) (identity : String) : ImageSource → Evaluated Resource
  | .remote url =>
    let r := fill scope identity url
    (⟨identity, .remote r.1, .placeholder⟩, r.2)
  | .bundled name =>
    let r := fill scope identity name
    (⟨identity, .bundled r.1, .bundled⟩, r.2)

/-! ### Degraded nodes -/

/-- What stands for a node that is not evaluated, for the reason given. -/
def degraded (n : Node) (identity : String) (kind : RenderKind) (fault : DiagnosticKind)
    (detail : String) : Evaluated RenderNode :=
  (.mk { blank identity kind with sourceId := n.id?, sourceType := n.typeName? } [],
    [⟨identity, fault, detail⟩])

def hidden (n : Node) (identity : String) : RenderNode :=
  .mk { blank identity (kindOf n) with
    visible := false
    sourceId := n.id?
    sourceType := match n with
      | .unsupported _ typeName .. => typeName
      | _ => none } []

/-- The items of a list, or the fault that it has none. -/
def items (scope : Scope) (identity source : String) : List Json × List Diagnostic :=
  match scope.lookup source with
  | some (.arr items) => (items, [])
  | some other =>
    ([], [⟨identity, .missingDataSource, s!"`{source}` is a {other.typeName}, not an array"⟩])
  | none => ([], [⟨identity, .missingDataSource, s!"no binding for `{source}`"⟩])

/-- All nodes, and the faults of one after those of the other. -/
def inOrder (nodes : List (Evaluated RenderNode)) : Evaluated (List RenderNode) :=
  (nodes.map (·.1), nodes.flatMap (·.2))

/-- A supported node: what is inside it, and its action after that. -/
def finish (scope : Scope) (face : Face) (c : Common) (text : Option String)
    (resource : Option Resource) (inside : Evaluated (List RenderNode)) : Evaluated RenderNode :=
  let action := c.action.map (package scope face.identity)
  (.mk { face with
      sourceId := c.id
      style := c.style
      text
      resource
      action := action.map (·.1) } inside.1,
    inside.2 ++ (action.map (·.2)).getD [])

mutual

def node (limit : Nat) (n : Node) (site : Site) (identity : String) : Evaluated RenderNode :=
  if limit ≤ site.depth then
    degraded n identity .truncated .depthExceeded s!"nesting exceeds {limit} levels"
  else if !Condition.allHold n.conditions site.scope then (hidden n identity, [])
  else
    let face := blank identity (kindOf n)
    match n with
    | .unsupported id typeName conditions reason raw =>
      degraded (.unsupported id typeName conditions reason raw) identity .unsupported
        .unsupportedType reason.message
    | .text c text =>
      let r := fill site.scope identity text
      finish site.scope face c (some r.1) none ([], r.2)
    | .button c label =>
      let r := fill site.scope identity label
      finish site.scope face c (some r.1) none ([], r.2)
    | .image c source =>
      let r := locate site.scope identity source
      finish site.scope face c none (some r.1) ([], r.2)
    | .container c _ inner =>
      finish site.scope face c none none (inOrder (children limit inner site.inside identity 0))
    | .list c source item =>
      if site.expanding.contains source then
        degraded (.list c source item) identity .truncated .listCycle
          s!"`{source}` is already being expanded by an ancestor"
      else
        let found := items site.scope identity source
        let inner := found.1.zipIdx.map fun (v, index) =>
          let identity := itemIdentity identity index
          node limit item (site.atItem source identity v) identity
        let r := inOrder inner
        finish site.scope face c none none (r.1, found.2 ++ r.2)
    | .spacer c => finish site.scope face c none none ([], [])
    | .divider c => finish site.scope face c none none ([], [])

/-- The children of a node from a place on. -/
def children (limit : Nat) (ns : List Node) (site : Site) (parent : String) (index : Nat) :
    List (Evaluated RenderNode) :=
  match ns with
  | [] => []
  | n :: rest =>
    node limit n site (childIdentity n parent index site.owner) ::
      children limit rest site parent (index + 1)

end

end Evaluate

/-- A node on its own, at the top. -/
def Node.evaluate (limit : Nat) (n : Node) (env : Environment) : RenderNode :=
  (Evaluate.node limit n (.top env) (n.id?.getD rootIdentity)).1

/-- The root of what is evaluated alone is no object. -/
structure MalformedRoot where
  found : String
deriving DecidableEq

def MalformedRoot.message (e : MalformedRoot) : String :=
  s!"Root node must be a JSON object, got {e.found}"

/-- A value that has not been decoded; only an object can be evaluated. -/
def Node.evaluateJson (limit : Nat) (v : Json) (env : Environment) :
    Except MalformedRoot RenderNode :=
  match v with
  | .obj _ => .ok ((Node.decode v).evaluate limit env)
  | _ => .error ⟨v.typeName⟩

/-- A whole screen. -/
def Document.render (limit : Nat) (d : Document) (env : Environment) : RenderTree :=
  let r := Evaluate.inOrder (Evaluate.children limit d.components (.top env) rootIdentity 0)
  .ofNodes d.id d.version d.title r.1 r.2

end Screens
