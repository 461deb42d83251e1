import Screens.Render.Tree

/-! Interactions: a viewer touches a node, and its action is handed on. -/
namespace Screens

inductive InteractionError where
  | unknownNode (identity : String)
  | hidden (identity : String)
  | noAction (identity : String)
deriving DecidableEq

def InteractionError.message : InteractionError → String
  | unknownNode identity => s!"No node '{identity}' in the render tree"
  | hidden identity => s!"Node '{identity}' is not visible"
  | noAction identity => s!"Node '{identity}' has no action"

namespace RenderTree

/-- The action that touching a node sets off. -/
def interact (tree : RenderTree) (identity : String) : Except InteractionError Action :=
  match tree.find? identity with
  | none => .error (.unknownNode identity)
  | some n =>
    if !n.face.visible then .error (.hidden identity)
    else match tree.actionFor? identity with
      | none => .error (.noAction identity)
      | some action => .ok action

/-- A series of interactions: the outcome of each, and the actions handed on. -/
def interactAll (tree : RenderTree) (identities : List String) :
    List (Except InteractionError Action) × List Action :=
  let outcomes := identities.map tree.interact
  (outcomes, outcomes.filterMap Except.toOption)

/-- What a receiver of actions gets: nothing once it is closed. -/
def delivered (closed : Bool) (actions : List Action) : List Action :=
  if closed then [] else actions

end RenderTree
end Screens
