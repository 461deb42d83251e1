import Screens.Proofs.Render.Report
import Screens.Render.Interaction

/-! Looking a touched node up.

An interaction asks twice: for the first node of the identity, hidden ones included, and
for the first action listed under it. Both are told by the faces of the tree in their
order: the node is the first face of the identity (`RenderNode.findAmong?_face`); since
nothing is inside a hidden node, the faces listed for their actions are just the visible
ones (`Document.visibleFaces_render`). `RenderTree.interact_of_find?` says from these what
an interaction gives. -/
namespace Screens

namespace RenderNode

mutual

/-- A search comes upon the faces in their order. -/
theorem find?_face (identity : String) (n : RenderNode) :
    (n.find? identity).map face = n.faces.find? (·.identity = identity) := by
  obtain ⟨f, children⟩ := n
  rw [find?, faces]
  by_cases h : f.identity = identity
  · simp [h, face]
  · rw [if_neg h, List.find?_cons_of_neg (by simpa using h)]
    exact findAmong?_face identity children

theorem findAmong?_face (identity : String) (nodes : List RenderNode) :
    (findAmong? identity nodes).map face = (facesOf nodes).find? (·.identity = identity) := by
  match nodes with
  | [] => rfl
  | n :: rest =>
    have hfirst := find?_face identity n
    have hrest := findAmong?_face identity rest
    rw [findAmong?, facesOf, List.find?_append, ← hfirst, ← hrest]
    cases n.find? identity <;> rfl

end

end RenderNode

/-! ### Visible nodes are those that are not hidden -/

/-- Nothing is inside a hidden node, so a visible face is one in reach. -/
theorem Visit.visibleFaces_drawn (limit : Nat) (v : Visit) :
    (v.drawn limit).visibleFaces = (v.drawn limit).faces.filter (·.visible) := by
  induction v using Visit.induction_inner with
  | step v ih =>
    rcases cases_entered limit v with ⟨hd, _⟩ | ⟨hd, ha, _⟩ | ⟨_, _, he⟩
    · rw [drawn_of_tooDeep hd]
      rfl
    · rw [drawn, evaluated_of_not_admitted hd ha]
      rfl
    · have hinner : RenderNode.visibleFacesOf (v.inner.map (drawn limit)) =
          (RenderNode.facesOf (v.inner.map (drawn limit))).filter (·.visible) := by
        rw [RenderNode.visibleFacesOf_eq, RenderNode.facesOf_eq, List.filter_flatMap,
          List.flatMap_map, List.flatMap_map]
        exact List.flatMap_congr ih
      rw [drawn_of_entered he, RenderNode.visibleFaces, RenderNode.faces, if_pos v.front_visible,
        List.filter_cons_of_pos v.front_visible, hinner]

namespace RenderTree

variable {tree : RenderTree} {identity : String} {action : Action}

/-- All faces of a tree, hidden ones included. -/
def faces (tree : RenderTree) : List Face := RenderNode.facesOf tree.nodes

theorem mem_actionsOf {faces : List Face} :
    ⟨identity, action⟩ ∈ actionsOf faces ↔
      ∃ f ∈ faces, f.identity = identity ∧ f.action = some action := by
  simp only [actionsOf, List.mem_filterMap, Option.map_eq_some_iff, Reachable.mk.injEq]
  constructor
  · rintro ⟨f, hf, a, ha, hid, rfl⟩
    exact ⟨f, hf, hid, ha⟩
  · rintro ⟨f, hf, hid, ha⟩
    exact ⟨f, hf, action, ha, hid, rfl⟩

theorem mem_of_actionFor? (h : tree.actionFor? identity = some action) :
    ⟨identity, action⟩ ∈ tree.actions := by
  obtain ⟨r, hr, rfl⟩ := Option.map_eq_some_iff.1 h
  have hid : r.identity = identity := by simpa using List.find?_some hr
  rw [← hid]
  exact List.mem_of_find?_eq_some hr

theorem exists_actionFor? (h : ⟨identity, action⟩ ∈ tree.actions) :
    ∃ first, tree.actionFor? identity = some first := by
  have hfound : (tree.actions.find? (·.identity == identity)).isSome = true :=
    List.find?_isSome.2 ⟨_, h, beq_self_eq_true identity⟩
  obtain ⟨r, hr⟩ := Option.isSome_iff_exists.1 hfound
  exact ⟨r.action, by rw [actionFor?, hr]; rfl⟩

theorem actionFor?_eq_none :
    tree.actionFor? identity = none ↔ ∀ action, ⟨identity, action⟩ ∉ tree.actions := by
  constructor
  · intro h action hmem
    obtain ⟨first, hfirst⟩ := exists_actionFor? hmem
    rw [h] at hfirst
    cases hfirst
  · intro h
    rw [Option.eq_none_iff_forall_ne_some]
    exact fun a ha => h a (mem_of_actionFor? ha)

/-! ### What an interaction gives -/

theorem find?_face (tree : RenderTree) (identity : String) :
    (tree.find? identity).map RenderNode.face = tree.faces.find? (·.identity = identity) :=
  RenderNode.findAmong?_face identity tree.nodes

/-- The first node of an identity decides whether the first action listed for it counts. -/
theorem interact_of_find? {f : Face} (h : tree.faces.find? (·.identity = identity) = some f) :
    tree.interact identity =
      if f.visible then (tree.actionFor? identity).elim (.error (.noAction identity)) .ok
      else .error (.hidden identity) := by
  rw [← find?_face] at h
  obtain ⟨n, hn, rfl⟩ := Option.map_eq_some_iff.1 h
  rw [interact, hn]
  cases hv : n.face.visible with
  | false => simp [hv]
  | true => cases ha : tree.actionFor? identity <;> simp [hv]

theorem interact_of_find?_eq_none (h : tree.faces.find? (·.identity = identity) = none) :
    tree.interact identity = .error (.unknownNode identity) := by
  rw [← find?_face, Option.map_eq_none_iff] at h
  rw [interact, h]

end RenderTree

namespace Document

variable (limit : Nat) (d : Document) (env : Environment)

theorem visibleFaces_render :
    (d.render limit env).visibleFaces = (d.render limit env).faces.filter (·.visible) := by
  have hdrawn := fun v (_ : v ∈ d.top env) => Visit.visibleFaces_drawn limit v
  rw [RenderTree.visibleFaces, RenderTree.faces, render_nodes, RenderNode.visibleFacesOf_eq,
    RenderNode.facesOf_eq, List.filter_flatMap, List.flatMap_map, List.flatMap_map]
  exact List.flatMap_congr hdrawn

/-- An action is listed exactly if a visible face of that identity carries it. -/
theorem mem_actions_render {identity : String} {action : Action} :
    ⟨identity, action⟩ ∈ (d.render limit env).actions ↔
      ∃ f ∈ (d.render limit env).faces,
        f.identity = identity ∧ f.visible = true ∧ f.action = some action := by
  have hactions : (d.render limit env).actions =
      RenderTree.actionsOf (d.render limit env).visibleFaces := rfl
  rw [hactions, visibleFaces_render, RenderTree.mem_actionsOf]
  constructor
  · rintro ⟨f, hf, hid, ha⟩
    obtain ⟨hmem, hv⟩ := List.mem_filter.1 hf
    exact ⟨f, hmem, hid, hv, ha⟩
  · rintro ⟨f, hmem, hid, hv, ha⟩
    exact ⟨f, List.mem_filter.2 ⟨hmem, hv⟩, hid, ha⟩

end Document
end Screens
