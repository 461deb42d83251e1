import Screens.Proofs.Render.Path
import Screens.Proofs.Render.Shape

/-! No two nodes of a rendered tree have the same identity.

The path of every face inside a node starts with the path of the node, or with what
one of the ids declared inside is given as (`under_of_mem_faces`). The places below one
parent differ in their indices and the declared ids from each other; a place is no
declared id, since an index is a number and no id is. What is left is that no declared id
is on the way to the node itself (`Clear`), which every step inside keeps. -/
namespace Screens

/-- The ids declared by nodes and by the nodes below them. -/
def Node.idsOf (nodes : List Node) : List String := (Node.walkAll nodes).filterMap Node.id?

/-- An id that can be taken neither for a place nor for the root. -/
structure PlainId (id : String) : Prop where
  noSlash : '/' ∉ id.toList
  noHash : '#' ∉ id.toList
  notRoot : id ≠ rootIdentity
  notNumber : ¬ (id.toList ≠ [] ∧ id.toList.all Char.isDigit = true)

instance (id : String) : Decidable (PlainId id) :=
  decidable_of_iff ('/' ∉ id.toList ∧ '#' ∉ id.toList ∧ id ≠ rootIdentity ∧
      ¬ (id.toList ≠ [] ∧ id.toList.all Char.isDigit = true))
    ⟨fun ⟨a, b, c, d⟩ => ⟨a, b, c, d⟩, fun h => ⟨h.noSlash, h.noHash, h.notRoot, h.notNumber⟩⟩

theorem PlainId.unmarked {id : String} (h : PlainId id) : Identity.Unmarked id.toList :=
  Identity.unmarked_of_not_mem h.noSlash h.noHash

theorem PlainId.ne_digits {id : String} (h : PlainId id) (index : Nat) :
    id.toList ≠ Identity.digits index := by
  intro he
  refine h.notNumber ⟨?_, ?_⟩
  · rw [he]
    exact Nat.toDigits_ne_nil
  · rw [he, List.all_eq_true]
    exact fun c hc => Identity.isDigit_of_mem_digits hc

namespace Node

theorem idsOf_cons (n : Node) (rest : List Node) :
    idsOf (n :: rest) = n.id?.toList ++ idsOf n.inside ++ idsOf rest := by
  have hself : n.walk.filterMap id? = n.id?.toList ++ idsOf n.inside := by
    cases n with
    | container c kind inner => cases h : c.id <;> simp [walk, idsOf, inside, id?, h]
    | list c source item => cases h : c.id <;> simp [walk, walkAll, idsOf, inside, id?, h]
    | unsupported id _ _ _ _ => cases id <;> simp [walk, walkAll, idsOf, inside, id?]
    | text c _ | button c _ | image c _ | spacer c | divider c =>
      cases h : c.id <;> simp [walk, walkAll, idsOf, inside, id?, h]
  rw [← hself]
  simp [idsOf, walkAll]

theorem mem_idsOf_of_id? {n : Node} {nodes : List Node} {id : String} (hn : n ∈ nodes)
    (hid : n.id? = some id) : id ∈ idsOf nodes :=
  List.mem_filterMap.2 ⟨n, mem_walkAll.2 ⟨n, hn, n.mem_walk_self⟩, hid⟩

theorem idsOf_inside_subset {n : Node} {nodes : List Node} (hn : n ∈ nodes) :
    idsOf n.inside ⊆ idsOf nodes := by
  induction nodes with
  | nil => simp at hn
  | cons m rest ih =>
    intro id hid
    rw [idsOf_cons]
    rcases List.mem_cons.1 hn with rfl | hn
    · simp [hid]
    · simp [ih hn hid]

theorem nodup_idsOf_inside {n : Node} (h : (idsOf [n]).Nodup) : (idsOf n.inside).Nodup := by
  rw [idsOf_cons, List.append_assoc, List.nodup_append] at h
  exact (List.nodup_append.1 h.2.1).1

end Node

namespace Identity

theorem declared_injective {owner : Option String} {a b : String}
    (h : declared owner a = declared owner b) : a = b := by
  cases owner with
  | none => exact String.toList_inj.1 (by simpa [declared] using h)
  | some owner => exact String.toList_inj.1 (by simpa [declared] using h)

theorem place_injective {parent : List (List Char)} {i j : Nat}
    (h : place parent i = place parent j) : i = j :=
  digits_injective (by simpa [place] using h)

theorem item_injective {list : List (List Char)} {i j : Nat} (h : item list i = item list j) :
    i = j :=
  digits_injective (by simpa [item] using h)

theorem declared_ne_place {id : String} (h : PlainId id) (owner : Option String) (parent : String)
    (index : Nat) : declared owner id ≠ place (path parent) index := by
  intro he
  cases owner with
  | none =>
    have := congrArg List.length he
    have hparent := List.length_pos_iff.2 (path_ne_nil parent)
    rw [length_place, declared, List.length_singleton] at this
    omega
  | some owner =>
    have := (List.append_inj' he rfl).2
    exact h.ne_digits index (by simpa using this)

/-- Two beginnings of one list that are equally long are the same. -/
theorem eq_of_beginnings {α : Type} {a b whole : List α} (ha : a <+: whole) (hb : b <+: whole)
    (h : a.length = b.length) : a = b :=
  (List.prefix_of_prefix_length_le ha hb (Nat.le_of_eq h)).eq_of_length h

/-- An identity below a place or below one of the declared ids. -/
def Under (owner : Option String) (place : List (List Char)) (ids : List String)
    (identity : String) : Prop :=
  place <+: path identity ∨ ∃ id ∈ ids, declared owner id <+: path identity

theorem Under.mono {owner : Option String} {p q : List (List Char)} {ids more : List String}
    {x : String} (h : Under owner q ids x) (hp : p <+: q) (hids : ids ⊆ more) :
    Under owner p more x := by
  rcases h with h | ⟨id, hid, h⟩
  · exact .inl (hp.trans h)
  · exact .inr ⟨id, hids hid, h⟩

/-- What is declared inside an item is below the item. -/
theorem Under.below_item {owner x : String} {ids : List String}
    (h : Under (some owner) (path owner) ids x) : path owner <+: path x := by
  rcases h with h | ⟨id, _, h⟩
  · exact h
  · exact (List.prefix_append _ _).trans h

/-- No declared id is on the way to the parent. -/
structure Clear (owner : Option String) (parent : String) (ids : List String) : Prop where
  apart : ∀ id ∈ ids, ¬ declared owner id <+: path parent
  deep : depth owner ≤ (path parent).length
  plain : ∀ id ∈ ids, PlainId id

theorem Clear.mono {owner : Option String} {parent : String} {ids fewer : List String}
    (h : Clear owner parent ids) (hsub : fewer ⊆ ids) : Clear owner parent fewer :=
  ⟨fun id hid => h.apart id (hsub hid), h.deep, fun id hid => h.plain id (hsub hid)⟩

/-- Nothing is both below a place and below a declared id. -/
theorem Clear.not_both {owner : Option String} {parent : String} {ids : List String}
    (h : Clear owner parent ids) {id : String} (hid : id ∈ ids) (index : Nat)
    {whole : List (List Char)} (hp : place (path parent) index <+: whole) :
    ¬ declared owner id <+: whole := by
  intro hd
  have hle : (declared owner id).length ≤ (place (path parent) index).length := by
    rw [length_declared, length_place]
    exact Nat.succ_le_succ h.deep
  have hpre := List.prefix_of_prefix_length_le hd hp hle
  -- Either the declared id is the place itself, or it ends before the index.
  rcases List.prefix_concat_iff.1 hpre with he | he
  · exact declared_ne_place (h.plain id hid) owner parent index he
  · exact h.apart id hid he

/-- What is below two places of one parent, or below the ids declared there, is told apart. -/
theorem Clear.ne_of_under {owner : Option String} {parent x y : String} {ids others : List String}
    (h : Clear owner parent (ids ++ others)) {i j : Nat} (hij : i ≠ j)
    (hids : ∀ a ∈ ids, ∀ b ∈ others, a ≠ b) (hx : Under owner (place (path parent) i) ids x)
    (hy : Under owner (place (path parent) j) others y) : x ≠ y := by
  rintro rfl
  rcases hx with hx | ⟨a, ha, hx⟩ <;> rcases hy with hy | ⟨b, hb, hy⟩
  · exact hij (place_injective (eq_of_beginnings hx hy (by rw [length_place, length_place])))
  · exact h.not_both (List.mem_append_right ids hb) i hx hy
  · exact h.not_both (List.mem_append_left others ha) j hy hx
  · have hlen : (declared owner a).length = (declared owner b).length := by
      rw [length_declared, length_declared]
    exact hids a ha b hb (declared_injective (eq_of_beginnings hx hy hlen))

/-- The parent is none of what is below it. -/
theorem Clear.ne_parent {owner : Option String} {parent x : String} {ids : List String}
    (h : Clear owner parent ids) {i : Nat} (hx : Under owner (place (path parent) i) ids x) :
    x ≠ parent := by
  rintro rfl
  rcases hx with hx | ⟨id, hid, hx⟩
  · have := hx.length_le
    rw [length_place] at this
    omega
  · exact h.apart id hid hx

end Identity

namespace Evaluate
open Identity

/-- The path of a child: that of its id, or of its place. -/
theorem path_childIdentity {n : Node} (parent : String) (index : Nat) (owner : Option String)
    (h : ∀ id, n.id? = some id → PlainId id) :
    (∃ id, n.id? = some id ∧ path (childIdentity n parent index owner) = declared owner id) ∨
    (n.id? = none ∧
      path (childIdentity n parent index owner) = place (path parent) index) := by
  cases hid : n.id? with
  | none =>
    have : childIdentity n parent index owner = s!"{parent}/{index}" := by
      simp only [childIdentity, hid]
    exact .inr ⟨rfl, by rw [this, path_place]⟩
  | some id =>
    have hu := (h id hid).unmarked
    cases owner with
    | none =>
      have : childIdentity n parent index none = id := by simp only [childIdentity, hid]
      exact .inl ⟨id, rfl, by rw [this, path, segments_unmarked hu, declared]⟩
    | some owner =>
      have : childIdentity n parent index (some owner) = s!"{owner}/{id}" := by
        simp only [childIdentity, hid]
      exact .inl ⟨id, rfl, by rw [this, path_declared owner id hu]⟩

/-- A child is no clash with what is declared below it, where its parent is none. -/
theorem clear_child {n : Node} {parent : String} {owner : Option String} (index : Nat)
    (h : Clear owner parent (Node.idsOf [n])) (hnodup : (Node.idsOf [n]).Nodup) :
    Clear owner (childIdentity n parent index owner) (Node.idsOf n.inside) := by
  have hself : n ∈ [n] := List.mem_singleton_self n
  have hsub := Node.idsOf_inside_subset hself
  have hid := path_childIdentity parent index owner
    fun id hid => h.plain id (Node.mem_idsOf_of_id? hself hid)
  refine ⟨fun id hmem hpre => ?_, ?_, fun id hmem => h.plain id (hsub hmem)⟩
  · rcases hid with ⟨own, hown, he⟩ | ⟨_, he⟩ <;> rw [he] at hpre
    · have hlen : (declared owner id).length = (declared owner own).length := by
        rw [length_declared, length_declared]
      have heq : id = own := declared_injective (hpre.eq_of_length hlen)
      rw [Node.idsOf_cons, hown] at hnodup
      simp only [Option.toList_some, List.cons_append, List.nil_append, List.nodup_cons,
        List.mem_append, not_or] at hnodup
      exact hnodup.1.1 (heq ▸ hmem)
    · exact h.not_both (hsub hmem) index (List.prefix_refl _) hpre
  · rcases hid with ⟨own, _, he⟩ | ⟨_, he⟩ <;> rw [he]
    · rw [length_declared]
      exact Nat.le_succ _
    · rw [length_place]
      exact Nat.le_succ_of_le h.deep

/-- An item is no clash with what is declared below it: its ids are below the item. -/
theorem clear_item (list : String) (index : Nat) {ids : List String} (h : ∀ id ∈ ids, PlainId id) :
    Clear (some (itemIdentity list index)) (itemIdentity list index) ids := by
  refine ⟨fun id _ hpre => ?_, Nat.le_refl _, h⟩
  have := hpre.length_le
  rw [length_declared, depth] at this
  omega

/-- What is below a child is below its place, or below an id declared there. -/
theorem under_place_of_child {n : Node} {nodes : List Node} {parent x : String} {index : Nat}
    {owner : Option String} (hn : n ∈ nodes) (h : ∀ id ∈ Node.idsOf nodes, PlainId id)
    (hx : Under owner (path (childIdentity n parent index owner)) (Node.idsOf n.inside) x) :
    Under owner (place (path parent) index) (Node.idsOf nodes) x := by
  rcases path_childIdentity parent index owner
    fun id hid => h id (Node.mem_idsOf_of_id? hn hid) with ⟨id, hid, he⟩ | ⟨_, he⟩ <;> rw [he] at hx
  · rcases hx with hx | ⟨other, hother, hx⟩
    · exact .inr ⟨id, Node.mem_idsOf_of_id? hn hid, hx⟩
    · exact .inr ⟨other, Node.idsOf_inside_subset hn hother, hx⟩
  · exact hx.mono (List.prefix_refl _) (Node.idsOf_inside_subset hn)

/-- Every face of a node is below the node, or below an id declared inside it. -/
theorem under_of_mem_faces {limit : Nat} (n : Node) (site : Site) (identity : String)
    (h : ∀ id ∈ Node.idsOf n.inside, PlainId id) {f : Face}
    (hf : f ∈ (node limit n site identity).1.faces) :
    Under site.owner (path identity) (Node.idsOf n.inside) f.identity := by
  induction n using Node.induction_inside generalizing site identity with
  | step n ih =>
    rw [RenderNode.faces_eq, List.mem_cons] at hf
    rcases hf with rfl | hf
    · rw [node_identity]
      exact .inl (List.prefix_refl _)
    · rcases node_children limit n site identity with
        he | ⟨c, kind, inner, rfl, he⟩ | ⟨c, source, item, rfl, he⟩ <;> rw [he] at hf
      · simp [RenderNode.facesOf] at hf
      · obtain ⟨m, hmem, i, _, hfr⟩ := mem_facesOf_children hf
        have hbelow := ih m hmem site.inside _
          (fun id hid => h id (Node.idsOf_inside_subset hmem hid)) hfr
        have hplace := under_place_of_child hmem h hbelow
        exact hplace.mono (List.prefix_append _ _) (List.Subset.refl _)
      · obtain ⟨v, _, hfr⟩ := mem_facesOf_items hf
        have hself : item ∈ [item] := List.mem_singleton_self item
        have hbelow := ih item hself (site.atItem source (itemIdentity identity v.2) v.1) _
          (fun id hid => h id (Node.idsOf_inside_subset hself hid)) hfr
        have hitem := hbelow.below_item
        rw [path_item] at hitem
        exact .inl ((List.prefix_append _ _).trans hitem)

/-! ### No identity twice -/

/-- Wherever a node is evaluated without a clash, no two faces of it have one identity. -/
def Distinct (limit : Nat) (n : Node) : Prop :=
  ∀ (site : Site) (identity : String), Clear site.owner identity (Node.idsOf n.inside) →
    (Node.idsOf n.inside).Nodup →
      ((node limit n site identity).1.faces.map (·.identity)).Nodup

/-- The faces of children are below places from the first on, or below their ids. -/
theorem under_of_mem_children {limit : Nat} {nodes : List Node} {site : Site} {parent x : String}
    {index : Nat} (h : ∀ id ∈ Node.idsOf nodes, PlainId id)
    (hx : x ∈ (RenderNode.facesOf
      ((children limit nodes site parent index).map (·.1))).map (·.identity)) :
    ∃ i, index ≤ i ∧ Under site.owner (place (path parent) i) (Node.idsOf nodes) x := by
  obtain ⟨f, hf, rfl⟩ := List.mem_map.1 hx
  obtain ⟨m, hmem, i, hi, hfr⟩ := mem_facesOf_children hf
  have hbelow := under_of_mem_faces m site _
    (fun id hid => h id (Node.idsOf_inside_subset hmem hid)) hfr
  exact ⟨i, hi, under_place_of_child hmem h hbelow⟩

theorem nodup_children {limit : Nat} {nodes : List Node} {site : Site} {parent : String}
    {index : Nat} (ih : ∀ m ∈ nodes, Distinct limit m)
    (h : Clear site.owner parent (Node.idsOf nodes)) (hnodup : (Node.idsOf nodes).Nodup) :
    ((RenderNode.facesOf ((children limit nodes site parent index).map (·.1))).map
      (·.identity)).Nodup := by
  induction nodes generalizing index with
  | nil => simp [children, RenderNode.facesOf]
  | cons m rest ihrest =>
    have hsplit : Node.idsOf (m :: rest) = Node.idsOf [m] ++ Node.idsOf rest := by
      simp [Node.idsOf, Node.walkAll]
    rw [hsplit] at h
    have hone : Clear site.owner parent (Node.idsOf [m]) := h.mono (List.subset_append_left _ _)
    have hrest : Clear site.owner parent (Node.idsOf rest) := h.mono (List.subset_append_right _ _)
    have hchild := clear_child index hone
    rw [hsplit, List.nodup_append] at hnodup
    obtain ⟨hm, hothers, hapart⟩ := hnodup
    rw [children, List.map_cons, RenderNode.facesOf, List.map_append, List.nodup_append]
    refine ⟨ih m List.mem_cons_self _ _ (hchild hm) (Node.nodup_idsOf_inside hm),
      ihrest (fun k hk => ih k (List.mem_cons_of_mem m hk)) hrest hothers, fun x hx y hy => ?_⟩
    obtain ⟨f, hf, rfl⟩ := List.mem_map.1 hx
    have hfirst := under_place_of_child (List.mem_singleton_self m) hone.plain
      (under_of_mem_faces m site _ (hchild hm).plain hf)
    obtain ⟨j, hj, hother⟩ := under_of_mem_children hrest.plain hy
    exact h.ne_of_under (Nat.ne_of_lt hj) hapart hfirst hother

/-- Every face of an item is below the item. -/
theorem below_item {limit : Nat} {source : String} {item : Node} {site : Site} {list : String}
    {v : Json × Nat} (h : ∀ id ∈ Node.idsOf item.inside, PlainId id) {f : Face}
    (hf : f ∈ (itemNode limit source item site list v).1.faces) :
    Identity.item (path list) v.2 <+: path f.identity := by
  rw [← path_item]
  exact (under_of_mem_faces item (site.atItem source (itemIdentity list v.2) v.1) _ h hf).below_item

theorem nodup_items {limit : Nat} {source : String} {item : Node} {site : Site} {list : String}
    {values : List Json} {start : Nat} (ih : Distinct limit item)
    (h : ∀ id ∈ Node.idsOf item.inside, PlainId id) (hnodup : (Node.idsOf item.inside).Nodup) :
    ((RenderNode.facesOf (((values.zipIdx start).map (itemNode limit source item site list)).map
      (·.1))).map (·.identity)).Nodup := by
  induction values generalizing start with
  | nil => simp [RenderNode.facesOf]
  | cons v rest ihrest =>
    rw [List.zipIdx_cons, List.map_cons, List.map_cons, RenderNode.facesOf, List.map_append,
      List.nodup_append]
    refine ⟨ih _ _ (clear_item list start h) hnodup, ihrest, fun x hx y hy hxy => ?_⟩
    obtain ⟨f, hf, rfl⟩ := List.mem_map.1 hx
    obtain ⟨g, hg, rfl⟩ := List.mem_map.1 hy
    obtain ⟨w, hw, hgr⟩ := mem_facesOf_items hg
    have hfirst := below_item h hf
    have hother := below_item h hgr
    rw [hxy] at hfirst
    have hindex : start = w.2 :=
      item_injective (eq_of_beginnings hfirst hother (by rw [length_item, length_item]))
    have := List.le_snd_of_mem_zipIdx hw
    omega

theorem distinct (limit : Nat) (n : Node) : Distinct limit n := by
  induction n using Node.induction_inside with
  | step n ih =>
    intro site identity h hnodup
    rw [RenderNode.faces_eq, List.map_cons, List.nodup_cons, node_identity]
    rcases node_children limit n site identity with
      he | ⟨c, kind, inner, rfl, he⟩ | ⟨c, source, item, rfl, he⟩ <;> rw [he]
    · simp [RenderNode.facesOf]
    · refine ⟨fun hmem => ?_, nodup_children ih h hnodup⟩
      obtain ⟨i, _, hbelow⟩ := under_of_mem_children h.plain hmem
      exact h.ne_parent hbelow rfl
    · have hself : item ∈ [item] := List.mem_singleton_self item
      have hsub := Node.idsOf_inside_subset hself
      have hplain : ∀ id ∈ Node.idsOf item.inside, PlainId id := fun id hid => h.plain id (hsub hid)
      have hinside := Node.nodup_idsOf_inside hnodup
      refine ⟨fun hmem => ?_, nodup_items (ih item hself) hplain hinside⟩
      obtain ⟨f, hf, hid⟩ := List.mem_map.1 hmem
      obtain ⟨v, _, hfr⟩ := mem_facesOf_items hf
      have hbelow := (below_item hplain hfr).length_le
      rw [hid, length_item] at hbelow
      exact absurd hbelow (Nat.not_succ_le_self _)

end Evaluate

/-- A document whose ids are distinct and plain is drawn without the same identity twice. -/
theorem Document.render_identities_nodup (d : Document)
    (hnodup : (d.nodes.filterMap Node.id?).Nodup)
    (hplain : ∀ id ∈ d.nodes.filterMap Node.id?, PlainId id) (limit : Nat) (env : Environment) :
    ((RenderNode.facesOf (d.render limit env).nodes).map (·.identity)).Nodup := by
  have hroot : Identity.path rootIdentity = [rootIdentity.toList] := by decide
  have hclear : Identity.Clear (Site.top env).owner rootIdentity (Node.idsOf d.components) := by
    refine ⟨fun id hid hpre => ?_, Nat.zero_le _, hplain⟩
    have he : Identity.declared none id = Identity.path rootIdentity := by
      refine hpre.eq_of_length ?_
      rw [hroot]
      rfl
    rw [hroot, Identity.declared] at he
    exact (hplain id hid).notRoot (String.toList_inj.1 (List.singleton_inj.1 he))
  exact Evaluate.nodup_children (fun m _ => Evaluate.distinct limit m) hclear hnodup

/-- A table: in a list of rows, a row with a heading and a list of cells. -/
def Document.table : Document :=
  .ofComponents "table" "" [.ofList "rows" "rows" (.ofContainer .vstack "row" [
    .ofText "heading" "", .ofList "cells" "item" (.ofText "cell" "")])]

/-- Two rows, of two cells and of one. -/
def Environment.ofTable : Environment :=
  .ofJson (.obj [("rows", .arr [.arr [.null, .null], .arr [.null]])])

theorem Document.table_identities_nodup :
    (table.nodes.filterMap Node.id?).Nodup ∧ (∀ id ∈ table.nodes.filterMap Node.id?, PlainId id) ∧
      (RenderNode.facesOf (table.render standardDepth .ofTable).nodes).map (·.identity) =
        ["rows", "rows#0", "rows#0/heading", "rows#0/cells", "rows#0/cells#0", "rows#0/cells#1",
          "rows#1", "rows#1/heading", "rows#1/cells", "rows#1/cells#0"] ∧
      ((RenderNode.facesOf (table.render standardDepth .ofTable).nodes).map (·.identity)).Nodup := by
  have hnodup : (table.nodes.filterMap Node.id?).Nodup := by decide +kernel
  have hplain : ∀ id ∈ table.nodes.filterMap Node.id?, PlainId id := by decide +kernel
  exact ⟨hnodup, hplain, by decide +kernel,
    render_identities_nodup table hnodup hplain standardDepth .ofTable⟩

end Screens
