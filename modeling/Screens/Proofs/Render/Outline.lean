import Screens.Render.Tree
import Screens.Resources.Loader

/-! Trees up to the states of their remote resources.

The outline of a tree is the tree with every remote resource put back to where nothing is
known of it. Bringing a tree up to date keeps its outline (`outline_annotate`): that
changes no other part, and no resource that comes with the client. -/
namespace Screens

/-- The resource before anything was known of it; of a bundled one nothing ever is. -/
def Resource.unsettled (r : Resource) : Resource :=
  match r.source with
  | .remote _ => { r with state := .placeholder }
  | .bundled _ => r

namespace RenderNode

mutual

theorem mapFaces_mapFaces (f g : Face → Face) :
    (n : RenderNode) → (n.mapFaces f).mapFaces g = n.mapFaces (g ∘ f)
  | mk face inner => by
    simp only [mapFaces, mapFacesOf_mapFacesOf f g inner, Function.comp_apply]

theorem mapFacesOf_mapFacesOf (f g : Face → Face) :
    (nodes : List RenderNode) → mapFacesOf g (mapFacesOf f nodes) = mapFacesOf (g ∘ f) nodes
  | [] => rfl
  | n :: rest => by
    simp only [mapFacesOf, mapFaces_mapFaces f g n, mapFacesOf_mapFacesOf f g rest]

end

end RenderNode

/-- A face with its resource changed. -/
def Face.mapResource (f : Resource → Resource) (face : Face) : Face :=
  { face with resource := face.resource.map f }

namespace RenderTree

theorem mapResources_mapResources (f g : Resource → Resource) (tree : RenderTree) :
    (tree.mapResources f).mapResources g = tree.mapResources (g ∘ f) := by
  have hface : Face.mapResource g ∘ Face.mapResource f = Face.mapResource (g ∘ f) := by
    funext face
    simp [Face.mapResource]
  show { tree with
    nodes := RenderNode.mapFacesOf (Face.mapResource g)
      (RenderNode.mapFacesOf (Face.mapResource f) tree.nodes)
    resources := (tree.resources.map f).map g } = _
  rw [RenderNode.mapFacesOf_mapFacesOf, hface, List.map_map]
  rfl

/-- The tree with nothing known of its remote resources. -/
def outline (tree : RenderTree) : RenderTree := tree.mapResources Resource.unsettled

end RenderTree

namespace Loader

theorem unsettled_refreshed (loader : Loader) (r : Resource) :
    (loader.refreshed r).unsettled = r.unsettled := by
  obtain ⟨identity, source, state⟩ := r
  cases source with
  | bundled name => rfl
  | remote url =>
    unfold refreshed
    split <;> rfl

theorem outline_annotate (loader : Loader) (tree : RenderTree) :
    (loader.annotate tree).outline = tree.outline := by
  have hcomp : Resource.unsettled ∘ loader.refreshed = Resource.unsettled :=
    funext loader.unsettled_refreshed
  rw [RenderTree.outline, annotate, RenderTree.mapResources_mapResources, hcomp,
    RenderTree.outline]

end Loader
end Screens
