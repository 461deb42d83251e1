import Mathlib.Data.List.Forall2
import Screens.Proofs.Render.Report

/-! The depth limit.

A node is cut off some levels down from another when it is that node, but what stands at
that level is truncated and has nothing inside it. What is drawn with a smaller limit is
what is drawn with a larger one, cut off at the smaller (`Visit.cutOff_drawn`). A node is
reached from the top by the places to go down through, and its depth is how often one goes
down.

`Document.render_refines`: so raising the limit changes nothing above it and no name at it,
and nothing at all where nothing was too deep. -/
namespace Screens

namespace RenderNode

/-! ### Nodes that are cut off -/

/-- The node is the other, cut off this many levels down. -/
def CutOff : Nat → RenderNode → RenderNode → Prop
  | 0, m, n => m.children = [] ∧ m.face.kind = .truncated ∧ m.face.identity = n.face.identity
  | levels + 1, m, n => m.face = n.face ∧ List.Forall₂ (CutOff levels) m.children n.children

/-! ### Positions -/

/-- The node reached by going down through the children at these places. -/
def nodeAt? : List Nat → RenderNode → Option RenderNode
  | [], n => some n
  | i :: position, n => n.children[i]?.bind (nodeAt? position)

/-- The node reached from nodes side by side, the first place being among them. -/
def nodeAmong? : List Nat → List RenderNode → Option RenderNode
  | [], _ => none
  | i :: position, nodes => nodes[i]?.bind (nodeAt? position)

section Relation
variable {α β γ : Type} {R : α → α → Prop} {S : β → β → Prop}

/-- Side by side, what stands at one place on both sides is in the relation of the sides. -/
theorem rel_getElem? {as bs : List α} (h : List.Forall₂ R as bs) (i : Nat) :
    Option.Rel R as[i]? bs[i]? := by
  induction h generalizing i with
  | nil => exact .none
  | cons hhead _ ih =>
    cases i with
    | zero => exact .some hhead
    | succ i => exact ih i

theorem rel_bind {a b : Option α} {f : α → Option β} (h : Option.Rel R a b)
    (hf : ∀ x y, R x y → Option.Rel S (f x) (f y)) : Option.Rel S (a.bind f) (b.bind f) := by
  cases h with
  | none => exact .none
  | some h => exact hf _ _ h

theorem map_eq_of_rel {a b : Option α} {f : α → γ} (h : Option.Rel R a b)
    (hf : ∀ x y, R x y → f x = f y) : a.map f = b.map f := by
  cases h with
  | none => rfl
  | some h => exact congrArg some (hf _ _ h)

theorem exists_of_rel {a b : Option α} (h : Option.Rel R a b) {x : α} (hx : a = some x) :
    ∃ y, R x y := by
  cases h with
  | none => cases hx
  | some h => exact ⟨_, Option.some.inj hx ▸ h⟩

end Relation

variable {levels : Nat} {m n : RenderNode} {ms ns : List RenderNode}

/-- Down to the level of the cut, the same positions are reached on both sides, and each of
the nodes there is cut off the levels that are left. -/
theorem CutOff.rel_nodeAt? (position : List Nat) (h : CutOff (levels + position.length) m n) :
    Option.Rel (CutOff levels) (m.nodeAt? position) (n.nodeAt? position) := by
  induction position generalizing m n with
  | nil => exact .some h
  | cons i position ih => exact rel_bind (rel_getElem? h.2 i) fun _ _ => ih

/-- No position below the level of the cut is reached. -/
theorem CutOff.nodeAt?_eq_none {position : List Nat} (h : CutOff levels m n)
    (hlong : levels < position.length) : m.nodeAt? position = none := by
  induction position generalizing levels m n with
  | nil => cases hlong
  | cons i position ih =>
    refine Option.bind_eq_none_iff.2 fun child hchild => ?_
    cases levels with
    | zero =>
      rw [h.1] at hchild
      cases hchild
    | succ levels =>
      obtain ⟨other, hcut⟩ := exists_of_rel (rel_getElem? h.2 i) hchild
      exact ih hcut (Nat.lt_of_succ_lt_succ hlong)

/-- Side by side it is the same, a first place being among the nodes. -/
theorem rel_nodeAmong? {position : List Nat} (h : List.Forall₂ (CutOff levels) ms ns)
    (hshort : position.length ≤ levels + 1) :
    Option.Rel (CutOff (levels + 1 - position.length)) (nodeAmong? position ms)
      (nodeAmong? position ns) := by
  cases position with
  | nil => exact .none
  | cons i position =>
    refine rel_bind (rel_getElem? h i) fun m n hcut => ?_
    rw [List.length_cons] at hshort ⊢
    have hlevels : levels + 1 - (position.length + 1) + position.length = levels := by omega
    refine CutOff.rel_nodeAt? position ?_
    rw [hlevels]
    exact hcut

theorem nodeAmong?_eq_none {position : List Nat} (h : List.Forall₂ (CutOff levels) ms ns)
    (hlong : levels + 1 < position.length) : nodeAmong? position ms = none := by
  cases position with
  | nil => rfl
  | cons i position =>
    refine Option.bind_eq_none_iff.2 fun m hm => ?_
    obtain ⟨other, hcut⟩ := exists_of_rel (rel_getElem? h i) hm
    exact hcut.nodeAt?_eq_none (Nat.lt_of_succ_lt_succ hlong)

end RenderNode

/-! ### What is drawn -/

namespace Visit

variable {limit finer : Nat} {v : Visit}

theorem depth_inner {w : Visit} (h : w ∈ v.inner) : w.site.depth = v.site.depth + 1 := by
  unfold inner at h
  split at h
  · obtain ⟨_, _, rfl⟩ := List.mem_map.1 h
    rfl
  · split at h
    · cases h
    · obtain ⟨_, _, rfl⟩ := List.mem_map.1 h
      rfl
  · cases h

/-- What is entered stays so under a larger limit. -/
theorem entered_mono (hle : limit ≤ finer) (h : v.entered limit = true) :
    v.entered finer = true := by
  obtain ⟨hd, ha⟩ := of_entered h
  rw [entered, ha, decide_eq_true (Nat.lt_of_lt_of_le hd hle)]
  rfl

/-- What is drawn with a smaller limit is cut off as many levels down as were left to it. -/
theorem cutOff_drawn (hle : limit ≤ finer) (levels : Nat) (v : Visit)
    (hlevels : v.site.depth + levels = limit) :
    RenderNode.CutOff levels (v.drawn limit) (v.drawn finer) := by
  induction levels generalizing v with
  | zero =>
    have hdeep : limit ≤ v.site.depth := by omega
    refine ⟨?_, ?_, ?_⟩
    · rw [drawn_of_tooDeep hdeep]
      rfl
    · rw [drawn_of_tooDeep hdeep]
      rfl
    · rw [drawn_identity, drawn_identity]
  | succ levels ih =>
    rcases cases_entered limit v with ⟨hd, _⟩ | ⟨hd, ha, _⟩ | ⟨_, _, he⟩
    · omega
    · rw [drawn, drawn, evaluated_of_not_admitted hd ha,
        evaluated_of_not_admitted (Nat.lt_of_lt_of_le hd hle) ha]
      exact ⟨rfl, .nil⟩
    · rw [drawn_of_entered he, drawn_of_entered (entered_mono hle he)]
      refine ⟨rfl, ?_⟩
      show List.Forall₂ _ (v.inner.map _) (v.inner.map _)
      rw [List.forall₂_map_left_iff, List.forall₂_map_right_iff, List.forall₂_same]
      intro w hw
      exact ih w (by rw [depth_inner hw]; omega)

/-- Where nothing is too deep a larger limit changes nothing. -/
theorem evaluated_of_no_depthExceeded (hle : limit ≤ finer) (v : Visit)
    (h : ∀ r ∈ v.faults limit, r.kind ≠ .depthExceeded) :
    v.evaluated limit = v.evaluated finer := by
  induction v using induction_inner with
  | step v ih =>
    rcases cases_entered limit v with ⟨hd, _⟩ | ⟨hd, ha, _⟩ | ⟨_, _, he⟩
    · rw [faults_of_tooDeep hd, own, if_pos hd] at h
      exact absurd rfl (h _ List.mem_cons_self)
    · rw [evaluated_of_not_admitted hd ha,
        evaluated_of_not_admitted (Nat.lt_of_lt_of_le hd hle) ha]
    · rw [faults_of_entered he] at h
      refine evaluated_congr he (entered_mono hle he) rfl rfl rfl (List.map_congr_left fun w hw => ?_)
      refine ih w hw fun r hr => h r ?_
      exact List.mem_append_left _ (List.mem_append_right _ (List.mem_flatMap.2 ⟨w, hw, hr⟩))

end Visit

/-! ### Whole screens -/

namespace RenderTree

/-- The node at a position: the place of a node at the top, and then of one among the
children of each. -/
def nodeAt? (tree : RenderTree) (position : List Nat) : Option RenderNode :=
  RenderNode.nodeAmong? position tree.nodes

/-- What a tree drawn to a depth limit has in common with one drawn to a larger. A node at
the top, whose position is a single place, is at depth zero. -/
structure RefinedBy (limit : Nat) (tree finer : RenderTree) : Prop where
  /-- Nothing is deeper than the limit. -/
  shallow : ∀ position node, tree.nodeAt? position = some node → position.length ≤ limit + 1
  /-- Above the limit the nodes are the same, and each has as many children. -/
  above : ∀ position, position.length ≤ limit →
    (tree.nodeAt? position).map (fun n => (n.face, n.children.length)) =
      (finer.nodeAt? position).map fun n => (n.face, n.children.length)
  /-- At the limit the nodes are truncated, and keep their names. -/
  edge : ∀ position, position.length = limit + 1 →
    (tree.nodeAt? position).map (·.face.identity) =
        (finer.nodeAt? position).map (·.face.identity) ∧
      ∀ node, tree.nodeAt? position = some node →
        node.children = [] ∧ node.face.kind = .truncated
  /-- Where nothing is too deep, all is the same. -/
  exact : (∀ r ∈ tree.diagnostics, r.kind ≠ .depthExceeded) → tree = finer

end RenderTree

namespace Document

variable {limit finer : Nat}

theorem cutOff_render (h : limit ≤ finer) (d : Document) (env : Environment) :
    List.Forall₂ (RenderNode.CutOff limit) (d.render limit env).nodes
      (d.render finer env).nodes := by
  rw [render_nodes, render_nodes, List.forall₂_map_left_iff, List.forall₂_map_right_iff,
    List.forall₂_same]
  intro v hv
  obtain ⟨_, _, rfl⟩ := List.mem_map.1 hv
  exact Visit.cutOff_drawn h limit _ (Nat.zero_add limit)

theorem render_of_no_depthExceeded (h : limit ≤ finer) (d : Document) (env : Environment)
    (hnone : ∀ r ∈ (d.render limit env).diagnostics, r.kind ≠ .depthExceeded) :
    d.render limit env = d.render finer env := by
  have htop : (d.top env).map (Visit.evaluated limit) = (d.top env).map (Visit.evaluated finer) :=
    List.map_congr_left fun v hv => Visit.evaluated_of_no_depthExceeded h v fun r hr =>
      hnone r (render_diagnostics limit d env ▸ List.mem_flatMap.2 ⟨v, hv, hr⟩)
  rw [render_eq, render_eq, htop]

/-- Raising the depth limit refines a tree at its edge, and changes nothing above it. -/
theorem render_refines (h : limit ≤ finer) (d : Document) (env : Environment) :
    (d.render limit env).RefinedBy limit (d.render finer env) where
  shallow position node hnode := by
    refine Nat.not_lt.1 fun hlong => ?_
    have hnone := RenderNode.nodeAmong?_eq_none (cutOff_render h d env) hlong
    rw [RenderTree.nodeAt?, hnone] at hnode
    cases hnode
  above position hshort := by
    have hwithin : position.length ≤ limit + 1 := by omega
    have hrel := RenderNode.rel_nodeAmong? (cutOff_render h d env) hwithin
    obtain ⟨levels, hlevels⟩ : ∃ levels, limit + 1 - position.length = levels + 1 :=
      ⟨limit - position.length, by omega⟩
    rw [hlevels] at hrel
    exact RenderNode.map_eq_of_rel hrel fun m n hcut => Prod.ext hcut.1 hcut.2.length_eq
  edge position hlength := by
    have hrel := RenderNode.rel_nodeAmong? (cutOff_render h d env) (Nat.le_of_eq hlength)
    rw [hlength, Nat.sub_self] at hrel
    refine ⟨RenderNode.map_eq_of_rel hrel fun m n hcut => hcut.2.2, fun node hnode => ?_⟩
    obtain ⟨other, hchildren, hkind, _⟩ := RenderNode.exists_of_rel hrel hnode
    exact ⟨hchildren, hkind⟩
  exact hnone := render_of_no_depthExceeded h d env hnone

/-- An environment of two rows. -/
def twoRows : Environment := .ofJson (.obj [("rows", .arr [.obj [], .obj []])])

theorem troubled_refined :
    3 ≤ standardDepth ∧
      (troubled.render 3 twoRows).nodeAt? [0, 1, 2, 0] ≠
        (troubled.render standardDepth twoRows).nodeAt? [0, 1, 2, 0] ∧
      (troubled.render 3 twoRows).RefinedBy 3 (troubled.render standardDepth twoRows) :=
  ⟨by decide, by decide +kernel, render_refines (by decide) troubled twoRows⟩

/-- With one more level nothing of the screen is too deep, and no further one changes it. -/
example : troubled.render 4 twoRows = troubled.render standardDepth twoRows := by decide +kernel

end Document
end Screens
