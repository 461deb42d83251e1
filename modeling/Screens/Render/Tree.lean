import Screens.Template.Node

/-! Rendered trees: what a drawing layer receives.

A rendered node is its face and the nodes inside it. A node is reached by a viewer
through visible nodes only; the actions and resources of a tree are those of the
faces so reached, in the order of the nodes.

Trees are compared with the numbers in their styles as numbers (`RenderTree.same`). -/
namespace Screens

inductive RenderKind where
  | text
  | button
  | image
  | vstack
  | hstack
  | zstack
  | card
  | list
  | spacer
  | divider
  /-- The template node is not supported. -/
  | unsupported
  /-- Evaluation stopped here, at the depth limit or in a cycle of lists. -/
  | truncated
deriving DecidableEq

/-- How far a resource is on its way to the viewer. -/
inductive ResourceState where
  | placeholder
  /-- Comes with the client. -/
  | bundled
  | loaded (bytes : UInt64)
  | failed (reason : String)
deriving DecidableEq

/-- Something the viewer needs beside the tree. -/
structure Resource where
  identity : String
  source : ImageSource
  state : ResourceState
deriving DecidableEq

def Resource.remoteUrl? (r : Resource) : Option String :=
  match r.source with
  | .remote url => some url
  | .bundled _ => none

/-- All of a rendered node but the nodes inside it. -/
structure Face where
  identity : String
  kind : RenderKind
  visible : Bool
  sourceId : Option String
  sourceType : Option String
  text : Option String
  style : Option Style
  action : Option Action
  resource : Option Resource
deriving DecidableEq

/-- All else is equal and the styles are the same. -/
def Face.same (f g : Face) : Bool :=
  { f with style := none } == { g with style := none } && sameOption Style.same f.style g.style

inductive RenderNode where
  | mk (face : Face) (children : List RenderNode)

namespace RenderNode

def face : RenderNode → Face
  | mk face _ => face

def children : RenderNode → List RenderNode
  | mk _ children => children

instance : Inhabited RenderNode := ⟨mk ⟨"", .spacer, false, none, none, none, none, none, none⟩ []⟩

mutual

def decEq : (a b : RenderNode) → Decidable (a = b)
  | mk f xs, mk g ys =>
    if h : f = g then match decEqAll xs ys with
      | isTrue hs => isTrue (by simp [h, hs])
      | isFalse hs => isFalse (by simp [hs])
    else isFalse (by simp [h])

def decEqAll : (a b : List RenderNode) → Decidable (a = b)
  | [], [] => isTrue rfl
  | [], _ :: _ | _ :: _, [] => isFalse (by simp)
  | m :: ms, n :: ns => match decEq m n, decEqAll ms ns with
    | isTrue h, isTrue hs => isTrue (by simp [h, hs])
    | isFalse h, _ => isFalse (by simp [h])
    | _, isFalse h => isFalse (by simp [h])

end

instance : DecidableEq RenderNode := decEq

mutual

/-- The first node of that identity, a node before those inside it; hidden ones count. -/
def find? (identity : String) : RenderNode → Option RenderNode
  | mk face children =>
    if face.identity = identity then some (mk face children) else findAmong? identity children

def findAmong? (identity : String) : List RenderNode → Option RenderNode
  | [] => none
  | n :: rest => find? identity n <|> findAmong? identity rest

end

mutual

/-- All faces, a node's before those inside it. -/
def faces : RenderNode → List Face
  | mk face children => face :: facesOf children

def facesOf : List RenderNode → List Face
  | [] => []
  | n :: rest => n.faces ++ facesOf rest

end

mutual

/-- The faces reached through visible nodes, a node's before those inside it. -/
def visibleFaces : RenderNode → List Face
  | mk face children => if face.visible then face :: visibleFacesOf children else []

def visibleFacesOf : List RenderNode → List Face
  | [] => []
  | n :: rest => n.visibleFaces ++ visibleFacesOf rest

end

mutual

/-- Every face changed in the same way. -/
def mapFaces (f : Face → Face) : RenderNode → RenderNode
  | mk face children => mk (f face) (mapFacesOf f children)

def mapFacesOf (f : Face → Face) : List RenderNode → List RenderNode
  | [] => []
  | n :: rest => n.mapFaces f :: mapFacesOf f rest

end

mutual

/-- Node by node the faces are the same. -/
def same : RenderNode → RenderNode → Bool
  | mk face inner, mk other others => face.same other && sameAll inner others

def sameAll : List RenderNode → List RenderNode → Bool
  | [], [] => true
  | m :: ms, n :: ns => m.same n && sameAll ms ns
  | [], _ :: _ | _ :: _, [] => false

end

end RenderNode

/-! ### Trees -/

inductive DiagnosticKind where
  | unresolvedBinding
  | unsupportedType
  | missingDataSource
  | depthExceeded
  | listCycle
deriving DecidableEq

/-- Something that went wrong at a node and was mended there. -/
structure Diagnostic where
  identity : String
  kind : DiagnosticKind
  detail : String
deriving DecidableEq

/-- The action of a visible node. -/
structure Reachable where
  identity : String
  action : Action
deriving DecidableEq

/-- A screen after evaluation. -/
structure RenderTree where
  screenId : String
  version : UInt64
  title : String
  nodes : List RenderNode
  actions : List Reachable
  resources : List Resource
  diagnostics : List Diagnostic
deriving DecidableEq

namespace RenderTree

def find? (tree : RenderTree) (identity : String) : Option RenderNode :=
  RenderNode.findAmong? identity tree.nodes

/-- The first listed action of that identity. -/
def actionFor? (tree : RenderTree) (identity : String) : Option Action :=
  (tree.actions.find? (·.identity == identity)).map (·.action)

def visibleFaces (tree : RenderTree) : List Face := RenderNode.visibleFacesOf tree.nodes

def actionsOf (faces : List Face) : List Reachable :=
  faces.filterMap fun f => f.action.map (⟨f.identity, ·⟩)

def resourcesOf (faces : List Face) : List Resource := faces.filterMap (·.resource)

/-- The tree of these nodes, its actions and resources collected from them. -/
def ofNodes (screenId : String) (version : UInt64) (title : String) (nodes : List RenderNode)
    (diagnostics : List Diagnostic) : RenderTree :=
  let seen := RenderNode.visibleFacesOf nodes
  { screenId, version, title, nodes, diagnostics
    actions := actionsOf seen
    resources := resourcesOf seen }

/-- Every resource changed in the same way, in the nodes and in the list. -/
def mapResources (f : Resource → Resource) (tree : RenderTree) : RenderTree :=
  { tree with
    nodes := tree.nodes |> RenderNode.mapFacesOf fun face =>
      { face with resource := face.resource.map f }
    resources := tree.resources.map f }

/-- All else is equal and the nodes are the same. -/
def same (s t : RenderTree) : Bool :=
  { s with nodes := [] } == { t with nodes := [] } && RenderNode.sameAll s.nodes t.nodes

end RenderTree
end Screens
