import Screens.Proofs.Render.Outline
import Screens.Proofs.Render.Shape
import Screens.Proofs.Template.RoundTrip
import Screens.Render.Wire

/-! Numbers in the styles of a tree.

A style goes from the template to the tree as it is, and a tree brought up to date keeps it. So
in a tree that was drawn from a document that was read, or was itself read, every number is
finite (`RenderTree.Received.finiteStyles`).

Trees are compared number by number, and what is not a number differs from itself. A tree with
its resources changed is the same as before exactly if it is equal and all its numbers are
numbers (`RenderTree.same_mapResources_iff`). -/
namespace Screens

/-! ### Changing faces -/

namespace RenderNode

variable {f : Face → Face}

mutual

theorem faces_mapFaces (f : Face → Face) : (n : RenderNode) → (n.mapFaces f).faces = n.faces.map f
  | mk face inner => by rw [mapFaces, faces, faces, facesOf_mapFacesOf f inner, List.map_cons]

theorem facesOf_mapFacesOf (f : Face → Face) :
    (nodes : List RenderNode) → facesOf (mapFacesOf f nodes) = (facesOf nodes).map f
  | [] => rfl
  | n :: rest => by
    rw [mapFacesOf, facesOf, facesOf, List.map_append, faces_mapFaces f n,
      facesOf_mapFacesOf f rest]

end

mutual

theorem mapFaces_eq_self : (n : RenderNode) → (∀ face ∈ n.faces, f face = face) → n.mapFaces f = n
  | mk face inner, h => by
    obtain ⟨hface, hinner⟩ := List.forall_mem_cons.1 h
    rw [mapFaces, hface, mapFacesOf_eq_self inner hinner]

theorem mapFacesOf_eq_self : (nodes : List RenderNode) → (∀ face ∈ facesOf nodes, f face = face) →
    mapFacesOf f nodes = nodes
  | [], _ => rfl
  | n :: rest, h => by
    obtain ⟨hn, hrest⟩ := List.forall_mem_append.1 h
    rw [mapFacesOf, mapFaces_eq_self n hn, mapFacesOf_eq_self rest hrest]

end

theorem mapFacesOf_eq_self_iff {nodes : List RenderNode} :
    mapFacesOf f nodes = nodes ↔ ∀ face ∈ facesOf nodes, f face = face := by
  refine ⟨fun h => ?_, mapFacesOf_eq_self nodes⟩
  have hfaces : (facesOf nodes).map f = (facesOf nodes).map id := by
    rw [← facesOf_mapFacesOf, h, List.map_id]
  exact List.map_inj_left.1 hfaces

end RenderNode

/-! ### Where the styles come from -/

/-- The style of an evaluated node is the one of its template, if there is one. -/
theorem Evaluate.node_style (limit : Nat) (n : Node) (site : Site) (identity : String) {s : Style}
    (h : s ∈ (node limit n site identity).1.face.style) : s ∈ n.style? := by
  rw [node.eq_def] at h
  split at h
  · cases h
  · split at h
    · cases h
    · dsimp only at h
      split at h
      · cases h
      · exact h
      · exact h
      · exact h
      · exact h
      · split at h
        · cases h
        · exact h
      · exact h
      · exact h

/-- In the styles of its nodes every number is finite. -/
def Document.FiniteStyles (d : Document) : Prop := ∀ n ∈ d.components, n.FiniteStyles

theorem Document.finiteStyles_of_decode {v : Json} {d : Document} (h : decode? v = some d) :
    d.FiniteStyles := by
  obtain ⟨parts, _, h⟩ := Option.bind_eq_some_iff.1 h
  obtain ⟨id, _, h⟩ := Option.bind_eq_some_iff.1 h
  cases h
  intro n hn
  obtain ⟨item, _, rfl⟩ := List.mem_map.1 hn
  exact Node.finiteStyles_decodeAt _ _ item

namespace RenderTree

/-- The styles of all nodes, hidden ones included. -/
def styles (tree : RenderTree) : List Style :=
  (RenderNode.facesOf tree.nodes).filterMap (·.style)

theorem forall_mem_styles {tree : RenderTree} {P : Style → Prop} :
    (∀ s ∈ tree.styles, P s) ↔ ∀ face ∈ RenderNode.facesOf tree.nodes, ∀ s ∈ face.style, P s := by
  simp only [styles, List.mem_filterMap, forall_exists_index, and_imp, Option.mem_def]
  exact ⟨fun h face hface s hs => h s face hface hs, fun h s face hface hs => h face hface s hs⟩

theorem nodes_mapResources (f : Resource → Resource) (tree : RenderTree) :
    (tree.mapResources f).nodes = RenderNode.mapFacesOf (Face.mapResource f) tree.nodes := rfl

theorem styles_mapResources (f : Resource → Resource) (tree : RenderTree) :
    (tree.mapResources f).styles = tree.styles := by
  rw [styles, nodes_mapResources, RenderNode.facesOf_mapFacesOf, List.filterMap_map]
  rfl

/-- Every number in its styles is finite. -/
def FiniteStyles (tree : RenderTree) : Prop := ∀ s ∈ tree.styles, s.Finite

theorem finiteStyles_render {d : Document} (h : d.FiniteStyles) (limit : Nat) (env : Environment) :
    (d.render limit env).FiniteStyles := by
  refine forall_mem_styles.2 fun face hface s hs => ?_
  obtain ⟨n, hn, _, _, hface⟩ := Evaluate.mem_facesOf_children hface
  obtain ⟨m, hm, site, identity, rfl⟩ := Evaluate.exists_node_of_mem_faces n _ _ hface
  exact h n hn m hm s (Evaluate.node_style limit m site identity hs)

end RenderTree

/-! ### Trees that were read -/

theorem Strict.decode_of_mem_list {α : Type} {decode : Json → Option α} {v : Json} {values : List α}
    (h : list? decode v = some values) : ∀ a ∈ values, ∃ w, decode w = some a := by
  obtain ⟨items, hitems, hm⟩ := Option.bind_eq_some_iff.1 h
  clear h hitems
  induction items generalizing values with
  | nil =>
    cases hm
    nofun
  | cons w rest ih =>
    rw [List.mapM_cons] at hm
    obtain ⟨a, ha, hm⟩ := Option.bind_eq_some_iff.1 hm
    obtain ⟨others, hothers, hm⟩ := Option.bind_eq_some_iff.1 hm
    cases hm
    exact List.forall_mem_cons.2 ⟨⟨w, ha⟩, ih hothers⟩

theorem Strict.decode_of_nullable {α : Type} {decode : Json → Option α} {name : String}
    {parts : Parts} {a : α} (h : nullable? decode name parts = some (some a)) :
    ∃ w, decode w = some a := by
  unfold nullable? at h
  split at h
  · cases h
  · cases h
  · obtain ⟨b, hb, h⟩ := Option.map_eq_some_iff.1 h
    cases h
    exact ⟨_, hb⟩

theorem Face.finite_of_decode {parts : List (String × Json)} {face : Face}
    (h : decode? parts = some face) : ∀ s ∈ face.style, s.Finite := by
  unfold decode? at h
  simp only [Option.bind_eq_bind, Option.bind_eq_some_iff] at h
  obtain ⟨_, _, _, _, _, _, _, _, _, _, _, _, style, hstyle, _, _, _, _, h⟩ := h
  cases h
  rintro s ⟨⟩
  obtain ⟨w, hw⟩ := Strict.decode_of_nullable hstyle
  exact Style.finite_of_decode hw

theorem RenderNode.finite_of_decodeWithin {levels : Nat} {v : Json} {n : RenderNode}
    (h : decodeWithin? levels v = some n) : ∀ face ∈ n.faces, ∀ s ∈ face.style, s.Finite := by
  induction levels generalizing v n with
  | zero => cases h
  | succ levels ih =>
    rw [decodeWithin?] at h
    simp only [Option.bind_eq_bind, Option.bind_eq_some_iff] at h
    obtain ⟨parts, _, face, hface, h⟩ := h
    have hown := Face.finite_of_decode hface
    split at h
    · cases h
      simpa [faces, facesOf] using hown
    · obtain ⟨inner, hinner, h⟩ := Option.bind_eq_some_iff.1 h
      cases h
      refine List.forall_mem_cons.2 ⟨hown, fun other hother => ?_⟩
      obtain ⟨m, hm, hother⟩ := mem_facesOf.1 hother
      obtain ⟨w, hw⟩ := Strict.decode_of_mem_list hinner m hm
      exact ih hw other hother

theorem RenderTree.finiteStyles_of_decode {v : Json} {tree : RenderTree}
    (h : decode? v = some tree) : tree.FiniteStyles := by
  unfold decode? at h
  simp only [Option.bind_eq_bind, Option.bind_eq_some_iff] at h
  obtain ⟨_, _, _, _, _, _, _, _, nodes, hnodes, _, _, _, _, h⟩ := h
  obtain ⟨w, _, hw⟩ := Option.bind_eq_some_iff.1 hnodes
  have htree : tree.nodes = nodes := by
    split at h
    · cases h
      rfl
    · obtain ⟨_, _, h⟩ := Option.bind_eq_some_iff.1 h
      cases h
      rfl
  refine forall_mem_styles.2 fun face hface => ?_
  rw [htree] at hface
  obtain ⟨n, hn, hface⟩ := RenderNode.mem_facesOf.1 hface
  obtain ⟨_, hn⟩ := Strict.decode_of_mem_list hw n hn
  exact RenderNode.finite_of_decodeWithin hn face hface

/-- The tree came from outside: a document that was read was drawn to it, in whatever
environment, or it was read itself. -/
inductive RenderTree.Received : RenderTree → Prop where
  | drawn {v : Json} {d : Document} (h : Document.decode? v = some d) (limit : Nat)
      (env : Environment) : Received (d.render limit env)
  | read {v : Json} {tree : RenderTree} (h : decode? v = some tree) : Received tree

theorem RenderTree.Received.finiteStyles {tree : RenderTree} (h : tree.Received) :
    tree.FiniteStyles := by
  cases h with
  | drawn h limit env => exact finiteStyles_render (Document.finiteStyles_of_decode h) limit env
  | read h => exact finiteStyles_of_decode h

/-! ### Comparison -/

theorem Numeral.same_self_iff {x : Numeral} : x.same x = true ↔ x ≠ .notANumber := by
  cases x <;> simp [same, rank?]

theorem sameOption_self_iff {α : Type} {same : α → α → Bool} {o : Option α} :
    sameOption same o o = true ↔ ∀ a ∈ o, same a a = true := by
  cases o <;> simp [sameOption]

/-- No number in it is missing its value. -/
def Style.Measured (s : Style) : Prop := ∀ x ∈ s.numbers, x ≠ .notANumber

theorem Style.Finite.measured {s : Style} (h : s.Finite) : s.Measured := by
  rintro x hx rfl
  cases h _ hx

theorem Style.same_self_iff {s : Style} : s.same s = true ↔ s.Measured := by
  have hfont (f : Font) : f.same f = true ↔ ∀ x ∈ f.numbers, x ≠ .notANumber := by
    simp [Font.same, Font.numbers, sameOption_self_iff, Numeral.same_self_iff]
  have hpadding (p : Padding) : p.same p = true ↔ ∀ x ∈ p.numbers, x ≠ .notANumber := by
    simp [Padding.same, Padding.numbers, sameOption_self_iff, Numeral.same_self_iff, or_imp,
      forall_and, and_assoc]
  simp only [same, Measured, numbers, sameOption_self_iff, hfont, hpadding, Numeral.same_self_iff,
    Bool.and_eq_true, beq_self_eq_true, and_true, List.mem_append, List.mem_flatMap,
    Option.mem_toList, or_imp, forall_and, forall_exists_index, and_imp, and_assoc]
  exact and_congr ⟨fun h x f hf => h f hf x, fun h f hf x => h x f hf⟩
    (and_congr ⟨fun h x p hp => h p hp x, fun h p hp x => h x p hp⟩ Iff.rfl)

/-- Every number in its styles is a number. -/
def RenderTree.Measured (tree : RenderTree) : Prop := ∀ s ∈ tree.styles, s.Measured

theorem RenderTree.FiniteStyles.measured {tree : RenderTree} (h : tree.FiniteStyles) :
    tree.Measured := fun s hs => (h s hs).measured

/-- A face that only had its resource changed. -/
theorem Face.same_mapResource_iff {f : Resource → Resource} {face : Face} :
    (face.mapResource f).same face = true ↔
      face.mapResource f = face ∧ ∀ s ∈ face.style, s.Measured := by
  have hrest : ({ face.mapResource f with style := none } : Face) = { face with style := none } ↔
      face.mapResource f = face := by
    obtain ⟨identity, kind, visible, sourceId, sourceType, text, style, action, resource⟩ := face
    simp [mapResource]
  have hstyle : sameOption Style.same (face.mapResource f).style face.style = true ↔
      ∀ s ∈ face.style, s.Measured := by
    show sameOption Style.same face.style face.style = true ↔ _
    simp only [sameOption_self_iff, Style.same_self_iff]
  rw [same, Bool.and_eq_true, beq_iff_eq, hrest, hstyle]

namespace RenderNode

variable {f : Face → Face}

mutual

theorem same_mapFaces_iff : (n : RenderNode) →
    ((n.mapFaces f).same n = true ↔ ∀ face ∈ n.faces, (f face).same face = true)
  | mk face inner => by
    rw [mapFaces, same, Bool.and_eq_true, sameAll_mapFacesOf_iff inner, faces, List.forall_mem_cons]

theorem sameAll_mapFacesOf_iff : (nodes : List RenderNode) →
    (sameAll (mapFacesOf f nodes) nodes = true ↔ ∀ face ∈ facesOf nodes, (f face).same face = true)
  | [] => by simp [mapFacesOf, sameAll, facesOf]
  | n :: rest => by
    rw [mapFacesOf, sameAll, Bool.and_eq_true, same_mapFaces_iff n, sameAll_mapFacesOf_iff rest,
      facesOf, List.forall_mem_append]

end

end RenderNode

/-- With its resources changed a tree is the same as before exactly if it is equal and no number
in its styles differs from itself. -/
theorem RenderTree.same_mapResources_iff {f : Resource → Resource} {tree : RenderTree} :
    (tree.mapResources f).same tree = true ↔ tree.mapResources f = tree ∧ tree.Measured := by
  have hnodes : RenderNode.sameAll (tree.mapResources f).nodes tree.nodes = true ↔
      (tree.mapResources f).nodes = tree.nodes ∧ tree.Measured := by
    rw [nodes_mapResources, RenderNode.sameAll_mapFacesOf_iff, RenderNode.mapFacesOf_eq_self_iff]
    simp only [Face.same_mapResource_iff, imp_and, forall_and, Measured, forall_mem_styles]
  rw [same, Bool.and_eq_true, beq_iff_eq, hnodes]
  obtain ⟨screenId, version, title, nodes, actions, resources, diagnostics⟩ := tree
  simp only [mapResources, mk.injEq, true_and, and_true]
  exact ⟨fun ⟨hresources, hnodes, hm⟩ => ⟨⟨hnodes, hresources⟩, hm⟩,
    fun ⟨⟨hnodes, hresources⟩, hm⟩ => ⟨hresources, hnodes, hm⟩⟩

end Screens
