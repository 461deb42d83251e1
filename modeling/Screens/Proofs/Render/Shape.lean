import Screens.Render.Evaluate

/-! The shape of what evaluation gives.

A node is evaluated to one rendered node of the identity asked for; inside it stand the
nodes of a container, or one node for each item of a list, or nothing
(`node_children`). So every face of a rendered tree is that of a template node
evaluated at some site (`exists_node_of_mem_faces`). -/
namespace Screens

namespace Node

/-- The nodes right inside a node. -/
def inside : Node → List Node
  | container _ _ inner => inner
  | list _ _ item => [item]
  | _ => []

mutual

/-- What holds of a node as soon as it holds of the nodes right inside it holds of
every node. -/
theorem induction_inside {P : Node → Prop} (step : ∀ n, (∀ m ∈ n.inside, P m) → P n) :
    (n : Node) → P n
  | container _ _ inner => step _ (induction_inside_all step inner)
  | list _ _ item => by
    have hitem := induction_inside step item
    exact step _ (by simpa [inside] using hitem)
  | text .. | button .. | image .. | spacer _ | divider _ | unsupported .. =>
    step _ (by simp [inside])

theorem induction_inside_all {P : Node → Prop} (step : ∀ n, (∀ m ∈ n.inside, P m) → P n) :
    (nodes : List Node) → ∀ m ∈ nodes, P m
  | [] => by simp
  | n :: rest => by
    have hn := induction_inside step n
    have hrest := induction_inside_all step rest
    intro m hm
    rcases List.mem_cons.1 hm with rfl | hm
    · exact hn
    · exact hrest m hm

end

theorem mem_walk_self (n : Node) : n ∈ n.walk := by
  cases n <;> simp [walk]

theorem mem_walkAll {nodes : List Node} {m : Node} :
    m ∈ walkAll nodes ↔ ∃ n ∈ nodes, m ∈ n.walk := by
  induction nodes with
  | nil => simp [walkAll]
  | cons n rest ih => simp [walkAll, ih]

theorem walk_subset_of_mem_inside {n m : Node} (h : m ∈ n.inside) : m.walk ⊆ n.walk := by
  intro k hk
  cases n with
  | container c kind inner =>
    rw [walk]
    exact List.mem_cons_of_mem _ (mem_walkAll.2 ⟨m, h, hk⟩)
  | list c source item =>
    rw [List.mem_singleton.1 h] at hk
    rw [walk]
    exact List.mem_cons_of_mem _ hk
  | text | button | image | spacer | divider | unsupported => cases h

end Node

namespace RenderNode

theorem faces_eq (n : RenderNode) : n.faces = n.face :: facesOf n.children := by
  cases n
  simp only [faces, face, children]

theorem facesOf_eq (nodes : List RenderNode) : facesOf nodes = nodes.flatMap faces := by
  induction nodes with
  | nil => rfl
  | cons n rest ih => rw [facesOf, ih, List.flatMap_cons]

theorem visibleFacesOf_eq (nodes : List RenderNode) :
    visibleFacesOf nodes = nodes.flatMap visibleFaces := by
  induction nodes with
  | nil => rfl
  | cons n rest ih => rw [visibleFacesOf, ih, List.flatMap_cons]

theorem mapFacesOf_eq (f : Face → Face) (nodes : List RenderNode) :
    mapFacesOf f nodes = nodes.map (mapFaces f) := by
  induction nodes with
  | nil => rfl
  | cons n rest ih => rw [mapFacesOf, ih, List.map_cons]

theorem mem_facesOf {nodes : List RenderNode} {f : Face} :
    f ∈ facesOf nodes ↔ ∃ n ∈ nodes, f ∈ n.faces := by
  rw [facesOf_eq, List.mem_flatMap]

mutual

theorem visibleFaces_subset (n : RenderNode) : n.visibleFaces ⊆ n.faces := by
  obtain ⟨face, children⟩ := n
  rw [visibleFaces, faces]
  split
  · exact List.cons_subset_cons _ (visibleFacesOf_subset children)
  · exact List.nil_subset _

theorem visibleFacesOf_subset (nodes : List RenderNode) : visibleFacesOf nodes ⊆ facesOf nodes := by
  match nodes with
  | [] => simp [visibleFacesOf]
  | n :: rest =>
    rw [visibleFacesOf, facesOf]
    intro f hf
    rcases List.mem_append.1 hf with hf | hf
    · exact List.mem_append_left _ (visibleFaces_subset n hf)
    · exact List.mem_append_right _ (visibleFacesOf_subset rest hf)

end

end RenderNode

namespace Evaluate

/-- An item of a list, with its index, in its own scope. -/
def itemNode (limit : Nat) (source : String) (item : Node) (site : Site) (list : String)
    (v : Json × Nat) : Evaluated RenderNode :=
  node limit item (site.atItem source (itemIdentity list v.2) v.1) (itemIdentity list v.2)

/-- A list's items. -/
def itemNodes (limit : Nat) (source : String) (item : Node) (site : Site) (list : String) :
    List (Evaluated RenderNode) :=
  (items site.scope list source).1.zipIdx.map (itemNode limit source item site list)

theorem node_identity (limit : Nat) (n : Node) (site : Site) (identity : String) :
    (node limit n site identity).1.face.identity = identity := by
  rw [node.eq_def]
  split
  · rfl
  · split
    · rfl
    · dsimp only
      split <;> try rfl
      split <;> rfl

/-- What stands inside an evaluated node: nothing, or the nodes of a container, or the
items of a list. -/
theorem node_children (limit : Nat) (n : Node) (site : Site) (identity : String) :
    (node limit n site identity).1.children = [] ∨
    (∃ c kind inner, n = .container c kind inner ∧ (node limit n site identity).1.children =
      (children limit inner site.inside identity 0).map (·.1)) ∨
    (∃ c source item, n = .list c source item ∧ (node limit n site identity).1.children =
      (itemNodes limit source item site identity).map (·.1)) := by
  rw [node.eq_def]
  split
  · exact .inl rfl
  · split
    · exact .inl rfl
    · dsimp only
      split <;> try exact .inl rfl
      · rename_i c kind inner _
        exact .inr (.inl ⟨c, kind, inner, rfl, rfl⟩)
      · rename_i c source item _
        split
        · exact .inl rfl
        · exact .inr (.inr ⟨c, source, item, rfl, rfl⟩)

/-- A child is one of the nodes, evaluated at the parent's site and at its own place. -/
theorem mem_children {limit : Nat} {nodes : List Node} {site : Site} {parent : String} {index : Nat}
    {r : Evaluated RenderNode} (h : r ∈ children limit nodes site parent index) :
    ∃ n ∈ nodes, ∃ i, index ≤ i ∧ r = node limit n site (childIdentity n parent i site.owner) := by
  induction nodes generalizing index with
  | nil => simp [children] at h
  | cons n rest ih =>
    rw [children, List.mem_cons] at h
    rcases h with rfl | h
    · exact ⟨n, List.mem_cons_self, index, Nat.le_refl _, rfl⟩
    · obtain ⟨m, hm, i, hi, rfl⟩ := ih h
      exact ⟨m, List.mem_cons_of_mem _ hm, i, Nat.le_of_succ_le hi, rfl⟩

/-- A face among children is one of a node, evaluated at its own place. -/
theorem mem_facesOf_children {limit : Nat} {nodes : List Node} {site : Site} {parent : String}
    {index : Nat} {f : Face}
    (h : f ∈ RenderNode.facesOf ((children limit nodes site parent index).map (·.1))) :
    ∃ n ∈ nodes, ∃ i, index ≤ i ∧
      f ∈ (node limit n site (childIdentity n parent i site.owner)).1.faces := by
  obtain ⟨r, hr, hf⟩ := RenderNode.mem_facesOf.1 h
  obtain ⟨e, he, rfl⟩ := List.mem_map.1 hr
  obtain ⟨n, hn, i, hi, rfl⟩ := mem_children he
  exact ⟨n, hn, i, hi, hf⟩

/-- A face among items is one of an item. -/
theorem mem_facesOf_items {limit : Nat} {source : String} {item : Node} {site : Site}
    {list : String} {values : List (Json × Nat)} {f : Face}
    (h : f ∈ RenderNode.facesOf ((values.map (itemNode limit source item site list)).map (·.1))) :
    ∃ v ∈ values, f ∈ (itemNode limit source item site list v).1.faces := by
  obtain ⟨r, hr, hf⟩ := RenderNode.mem_facesOf.1 h
  obtain ⟨e, he, rfl⟩ := List.mem_map.1 hr
  obtain ⟨v, hv, rfl⟩ := List.mem_map.1 he
  exact ⟨v, hv, hf⟩

/-- Every face of an evaluated node is that of one of its template's nodes, evaluated
at some site. -/
theorem exists_node_of_mem_faces {limit : Nat} (n : Node) (site : Site) (identity : String)
    {f : Face} (h : f ∈ (node limit n site identity).1.faces) :
    ∃ m ∈ n.walk, ∃ site identity, f = (node limit m site identity).1.face := by
  induction n using Node.induction_inside generalizing site identity with
  | step n ih =>
    rw [RenderNode.faces_eq, List.mem_cons] at h
    rcases h with rfl | h
    · exact ⟨n, n.mem_walk_self, site, identity, rfl⟩
    · rcases node_children limit n site identity with
        he | ⟨c, kind, inner, rfl, he⟩ | ⟨c, source, item, rfl, he⟩ <;> rw [he] at h
      · simp [RenderNode.facesOf] at h
      · obtain ⟨m, hmem, _, _, hf⟩ := mem_facesOf_children h
        obtain ⟨k, hk, hrest⟩ := ih m hmem _ _ hf
        refine ⟨k, ?_, hrest⟩
        rw [Node.walk, List.mem_cons]
        exact .inr (Node.mem_walkAll.2 ⟨m, hmem, hk⟩)
      · obtain ⟨v, _, hf⟩ := mem_facesOf_items h
        obtain ⟨k, hk, hrest⟩ := ih item List.mem_cons_self _ _ hf
        refine ⟨k, ?_, hrest⟩
        rw [Node.walk, List.mem_cons]
        exact .inr hk

end Evaluate
end Screens
