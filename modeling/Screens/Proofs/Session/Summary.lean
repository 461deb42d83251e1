import Screens.Proofs.Render.Outline
import Screens.Proofs.Session.Run

/-! The lists of a tree and its nodes say the same.

The actions and resources of a tree are kept in its nodes and once more in lists. A drawn
tree collects the lists from its visible nodes; after that its resources are changed in both
places, in the nodes whether they are visible or not. As a change leaves alone what is visible
(`visibleFacesOf_mapFacesOf`), the lists are what would be collected from the changed nodes
(`Summarised.mapResources`). So they are for all that a session ever has out, whatever becomes
of the loader in the meantime (`published_summarised`). -/
namespace Screens

namespace RenderNode

variable {f : Face → Face}

mutual

theorem visibleFaces_mapFaces (h : ∀ face, (f face).visible = face.visible) :
    (n : RenderNode) → (n.mapFaces f).visibleFaces = n.visibleFaces.map f
  | mk face inner => by
    rw [mapFaces, visibleFaces, visibleFaces, h, visibleFacesOf_mapFacesOf h inner]
    split <;> rfl

theorem visibleFacesOf_mapFacesOf (h : ∀ face, (f face).visible = face.visible) :
    (nodes : List RenderNode) →
      visibleFacesOf (mapFacesOf f nodes) = (visibleFacesOf nodes).map f
  | [] => rfl
  | n :: rest => by
    rw [mapFacesOf, visibleFacesOf, visibleFacesOf, List.map_append, visibleFaces_mapFaces h n,
      visibleFacesOf_mapFacesOf h rest]

end

end RenderNode

namespace RenderTree

/-- The lists of the tree are those of its visible nodes, in order. -/
structure Summarised (tree : RenderTree) : Prop where
  actions : tree.actions = actionsOf tree.visibleFaces
  resources : tree.resources = resourcesOf tree.visibleFaces

/-- The tree with its lists collected anew from its nodes. -/
def collected (tree : RenderTree) : RenderTree :=
  .ofNodes tree.screenId tree.version tree.title tree.nodes tree.diagnostics

theorem summarised_ofNodes (screenId : String) (version : UInt64) (title : String)
    (nodes : List RenderNode) (diagnostics : List Diagnostic) :
    (ofNodes screenId version title nodes diagnostics).Summarised := ⟨rfl, rfl⟩

theorem Drawn.summarised {tree : RenderTree} (h : tree.Drawn) : tree.Summarised := by
  obtain ⟨limit, d, env, rfl⟩ := h
  exact summarised_ofNodes _ _ _ _ _

theorem Summarised.collected_eq {tree : RenderTree} (h : tree.Summarised) :
    tree.collected = tree := by
  show { tree with
    actions := actionsOf tree.visibleFaces
    resources := resourcesOf tree.visibleFaces } = tree
  rw [← h.actions, ← h.resources]

theorem visibleFaces_mapResources (f : Resource → Resource) (tree : RenderTree) :
    (tree.mapResources f).visibleFaces = tree.visibleFaces.map (Face.mapResource f) :=
  RenderNode.visibleFacesOf_mapFacesOf (f := Face.mapResource f) (fun _ => rfl) tree.nodes

theorem actionsOf_mapResource (f : Resource → Resource) (faces : List Face) :
    actionsOf (faces.map (Face.mapResource f)) = actionsOf faces := by
  rw [actionsOf, List.filterMap_map]
  rfl

theorem resourcesOf_mapResource (f : Resource → Resource) (faces : List Face) :
    resourcesOf (faces.map (Face.mapResource f)) = (resourcesOf faces).map f := by
  rw [resourcesOf, List.filterMap_map, resourcesOf, List.map_filterMap]
  rfl

/-- Changing the resources in both places keeps the lists right. -/
theorem Summarised.mapResources {tree : RenderTree} (h : tree.Summarised)
    (f : Resource → Resource) : (tree.mapResources f).Summarised := by
  constructor <;> rw [visibleFaces_mapResources]
  · rw [actionsOf_mapResource]
    exact h.actions
  · rw [resourcesOf_mapResource, ← h.resources]
    rfl

end RenderTree

namespace Session

variable {fetchable : String → Bool} {s : Session}

/-- The sessions that drawn trees are fed to. -/
abbrev Fed (fetchable : String → Bool) : Session → Prop := FedWith fetchable RenderTree.Drawn

theorem Fed.render (h : Fed fetchable s) (limit : Nat) (d : Document) (env : Environment) :
    Fed fetchable (s.render fetchable limit d env).2 := .publish _ (.begin h) ⟨limit, d, env, rfl⟩

theorem summarised_annotated {tree : RenderTree} (h : tree.Summarised) (s : Session) :
    (s.annotated tree).Summarised := by
  unfold annotated
  split
  · exact h.mapResources _
  · exact h

/-- What is out has the lists of its visible nodes. -/
def Tallied (s : Session) : Prop := ∀ p, s.published = some p → p.tree.Summarised

theorem tallied_publish (h : Tallied s) (generation : UInt64) {tree : RenderTree}
    (ht : tree.Summarised) : Tallied (s.publish fetchable generation tree).2 := by
  rcases publish_cases fetchable s generation tree with ⟨_, he⟩ | ⟨_, _, hp, _⟩
  · rw [he]
    exact h
  · intro p hout
    obtain rfl := Option.some.inj (hp.symm.trans hout)
    exact summarised_annotated ht s

theorem tallied_applyEvent (h : Tallied s) (event : ResourceEvent) :
    Tallied (s.applyEvent event).2 := by
  unfold applyEvent
  split
  · rename_i loader out _ hout
    dsimp only
    split
    · exact h
    · intro p hp
      obtain rfl := Option.some.inj hp
      exact (h out hout).mapResources _
  · exact h

theorem Fed.tallied (h : Fed fetchable s) : Tallied s := by
  induction h with
  | start loader => intro p hp; cases hp
  | begin _ ih => exact ih
  | publish generation _ ht ih => exact tallied_publish ih generation ht.summarised
  | applyEvent event _ ih => exact tallied_applyEvent ih event
  | loader change _ ih => exact ih

/-- The actions and resources listed in what is out are those of its visible nodes, in order,
each action with the identity of its node and each resource with its state; so collecting them
anew changes nothing. -/
theorem published_summarised (h : Fed fetchable s) {p : Published} (hp : s.published = some p) :
    p.tree.actions =
        p.tree.visibleFaces.filterMap (fun f => f.action.map fun a => ⟨f.identity, a⟩) ∧
      p.tree.resources = p.tree.visibleFaces.filterMap (fun f => f.resource) ∧
      p.tree.collected = p.tree :=
  ⟨(h.tallied p hp).actions, (h.tallied p hp).resources, (h.tallied p hp).collected_eq⟩

/-- Two images and between them two buttons, the second of which nobody sees; the second image
can be tapped, too. -/
def album : Document :=
  .ofComponents "album" "" [.image (.ofId "front") (.remote "http://h/a.png"),
    .button ⟨some "buy", none, some (.ofTarget "open" "cart"), []⟩ "Buy",
    .button ⟨some "gift", none, some (.ofTarget "open" "gift"), [⟨"vip", .present, ""⟩]⟩ "Gift",
    .image ⟨some "back", none, some (.ofTarget "open" "back"), []⟩ (.remote "http://h/b.png")]

/-- The album is out, and its second image has come and is taken note of. -/
def halfLoaded : Session :=
  run (fun _ => true) (start (some (.empty 1000)))
    [.publish 1 (album.render standardDepth .empty),
      .finish "http://h/b.png" (.ok [1, 2, 3]), .applyEvent (.loaded "http://h/b.png" 1)]

theorem halfLoaded_summarised :
    Fed (fun _ => true) halfLoaded ∧ ∃ p, halfLoaded.published = some p ∧
      p.tree.visibleFaces.filterMap (fun f => f.resource) =
        [⟨"front", .remote "http://h/a.png", .placeholder⟩,
          ⟨"back", .remote "http://h/b.png", .loaded 3⟩] ∧
      p.tree.resources = p.tree.visibleFaces.filterMap (fun f => f.resource) ∧
      p.tree.actions = [⟨"buy", .ofTarget "open" "cart"⟩, ⟨"back", .ofTarget "open" "back"⟩] ∧
      p.tree.collected = p.tree := by
  have hfed : Fed (fun _ => true) halfLoaded :=
    .applyEvent _ (.finish (.publish 1 (.start _) ⟨_, _, _, rfl⟩) _ _)
  have hfaces : halfLoaded.published.map (fun p =>
      (p.tree.visibleFaces.filterMap (fun f => f.resource),
        p.tree.visibleFaces.filterMap (fun f => f.action.map (Reachable.mk f.identity)))) =
        some ([⟨"front", .remote "http://h/a.png", .placeholder⟩,
          ⟨"back", .remote "http://h/b.png", .loaded 3⟩],
          [⟨"buy", .ofTarget "open" "cart"⟩, ⟨"back", .ofTarget "open" "back"⟩]) := by
    decide +kernel
  obtain ⟨p, hp, hfaces⟩ := Option.map_eq_some_iff.1 hfaces
  obtain ⟨hresources, hactions⟩ := Prod.mk.inj hfaces
  obtain ⟨hlisted, hkept, hcollected⟩ := published_summarised hfed hp
  exact ⟨hfed, p, hp, hresources, hkept, hlisted.trans hactions, hcollected⟩

end Session
end Screens
