import Screens.Proofs.Render.Pass
import Screens.Proofs.Render.Report

/-! Screens side by side.

A node with an id is named by it and not by its place, so what stands beside it at the top
has no part in how it is drawn. `Document.render_append`: the tree of two lists of such
nodes is the tree of the first beside that of the second, a node alone is drawn as in its
place, and a pass that comes to a node with any faults met before leaves it with no list
entered and the faults of that node added. -/
namespace Screens

/-- The nodes of both trees, with all that goes with them, under the heading of the first. -/
def RenderTree.beside (a b : RenderTree) : RenderTree :=
  { a with
    nodes := a.nodes ++ b.nodes
    actions := a.actions ++ b.actions
    resources := a.resources ++ b.resources
    diagnostics := a.diagnostics ++ b.diagnostics }

theorem RenderTree.ofNodes_append (id : String) (version : UInt64) (title : String)
    (a b : List RenderNode) (met later : List Diagnostic) :
    ofNodes id version title (a ++ b) (met ++ later) =
      (ofNodes id version title a met).beside (ofNodes id version title b later) := by
  simp only [ofNodes, beside, RenderNode.visibleFacesOf_eq, List.flatMap_append, actionsOf,
    resourcesOf, List.filterMap_append]

namespace Evaluate

variable (limit : Nat) (site : Site) (parent : String)

theorem inOrder_append (a b : List (Evaluated RenderNode)) :
    inOrder (a ++ b) = ((inOrder a).1 ++ (inOrder b).1, (inOrder a).2 ++ (inOrder b).2) := by
  simp only [inOrder, List.map_append, List.flatMap_append]

theorem children_append (cs ds : List Node) (index : Nat) :
    children limit (cs ++ ds) site parent index =
      children limit cs site parent index ++ children limit ds site parent (index + cs.length) := by
  induction cs generalizing index with
  | nil => rfl
  | cons c rest ih =>
    have hlength : index + 1 + rest.length = index + (c :: rest).length := by
      rw [List.length_cons]
      omega
    rw [List.cons_append, children, children, ih, hlength, List.cons_append]

theorem childIdentity_of_declared {n : Node} (h : n.id?.isSome = true) (i j : Nat) :
    childIdentity n parent i site.owner = childIdentity n parent j site.owner := by
  obtain ⟨id, hid⟩ := Option.isSome_iff_exists.1 h
  unfold childIdentity
  rw [hid]
  cases site.owner <;> rfl

/-- Nodes with ids are drawn alike at any place. -/
theorem children_of_declared {nodes : List Node} (h : ∀ n ∈ nodes, n.id?.isSome = true)
    (i j : Nat) : children limit nodes site parent i = children limit nodes site parent j := by
  induction nodes generalizing i j with
  | nil => rfl
  | cons n rest ih =>
    have hidentity := childIdentity_of_declared site parent (h n List.mem_cons_self) i j
    have hrest := ih (fun m hm => h m (List.mem_cons_of_mem n hm)) (i + 1) (j + 1)
    rw [children, children, hidentity, hrest]

end Evaluate

namespace Document

/-- The screen with other nodes at the top. -/
def withComponents (d : Document) (components : List Node) : Document := { d with components }

variable (limit : Nat) (d : Document) (env : Environment)

theorem render_withComponents_append (cs : List Node) {ds : List Node}
    (h : ∀ c ∈ ds, c.id?.isSome = true) :
    (d.withComponents (cs ++ ds)).render limit env =
      ((d.withComponents cs).render limit env).beside ((d.withComponents ds).render limit env) := by
  have hplace := Evaluate.children_of_declared limit (.top env) rootIdentity h (0 + cs.length) 0
  simp only [render, withComponents, Evaluate.children_append, hplace, Evaluate.inOrder_append,
    RenderTree.ofNodes_append]

/-- A node with an id is drawn at the top as it is on its own. -/
theorem render_singleton {c : Node} (h : c.id?.isSome = true) :
    Evaluate.inOrder (Evaluate.children limit [c] (.top env) rootIdentity 0) =
      ([c.evaluate limit env],
        (Evaluate.node limit c (.top env) (c.id?.getD rootIdentity)).2) := by
  obtain ⟨id, hid⟩ := Option.isSome_iff_exists.1 h
  have hidentity : Evaluate.childIdentity c rootIdentity 0 none = id := by
    simp only [Evaluate.childIdentity, hid]
  simp only [Evaluate.children, Evaluate.inOrder, Site.top, Node.evaluate, hidentity, hid,
    Option.getD_some, List.map_cons, List.map_nil, List.flatMap_cons, List.flatMap_nil,
    List.append_nil]

theorem render_append (cs ds : List Node) (h : ∀ c ∈ cs ++ ds, c.id?.isSome = true) :
    (d.withComponents (cs ++ ds)).render limit env =
      ((d.withComponents cs).render limit env).beside ((d.withComponents ds).render limit env) ∧
    (d.withComponents (cs ++ ds)).renderInPass limit env =
      (d.withComponents (cs ++ ds)).render limit env ∧
    ∀ c ∈ cs ++ ds, ((d.withComponents [c]).render limit env).nodes = [c.evaluate limit env] ∧
      ∀ pass : Pass, pass.expanding = [] →
        (Pass.node limit c (.root env) none 0 (c.id?.getD rootIdentity)).run pass =
          (c.evaluate limit env, { pass with
            faults := pass.faults ++ ((d.withComponents [c]).render limit env).diagnostics }) := by
  refine ⟨?_, renderInPass_eq limit _ env, fun c hc => ⟨?_, ?_⟩⟩
  · exact render_withComponents_append limit d env cs fun c hc => h c (List.mem_append_right cs hc)
  · exact congrArg (·.1) (render_singleton limit env (h c hc))
  · rintro ⟨faults, expanding⟩ rfl
    have halone : ((d.withComponents [c]).render limit env).diagnostics = _ :=
      congrArg (·.2) (render_singleton limit env (h c hc))
    have hgives := Pass.node_gives limit c (.top env) (c.id?.getD rootIdentity)
    rw [halone]
    exact hgives.run faults

/-- What a screen has before it is drawn a second time: a note for staff alone. -/
def staffNote : Node :=
  .text ⟨some "note", none, some (.ofTarget "open" "/staff"), [⟨"staff", .equals, "true"⟩]⟩ "Staff"

/-- The troubled screen twice, with one row: a second list of the same rows is no cycle. -/
theorem troubled_twice :
    (∀ c ∈ troubled.components ++ staffNote :: troubled.components, c.id?.isSome = true) ∧
      ((troubled.withComponents (troubled.components ++ staffNote :: troubled.components)).render 3
        (.ofJson (.obj [("rows", .arr [.obj []])]))).diagnostics.map (fun r => (r.identity, r.kind)) =
      [("rows#0/name", .unresolvedBinding), ("rows#0/again", .listCycle),
        ("rows#0/deep", .depthExceeded), ("rows", .unresolvedBinding), ("lost", .missingDataSource),
        ("odd", .unsupportedType), ("rows#0/name", .unresolvedBinding),
        ("rows#0/again", .listCycle), ("rows#0/deep", .depthExceeded), ("rows", .unresolvedBinding),
        ("lost", .missingDataSource), ("odd", .unsupportedType)] ∧
      (troubled.withComponents (troubled.components ++ staffNote :: troubled.components)).render 3
          (.ofJson (.obj [("rows", .arr [.obj []])])) =
        ((troubled.withComponents troubled.components).render 3
          (.ofJson (.obj [("rows", .arr [.obj []])]))).beside
        ((troubled.withComponents (staffNote :: troubled.components)).render 3
          (.ofJson (.obj [("rows", .arr [.obj []])]))) := by
  have hids : ∀ c ∈ troubled.components ++ staffNote :: troubled.components,
      c.id?.isSome = true := by decide +kernel
  exact ⟨hids, by decide +kernel, (render_append 3 troubled _ _ _ hids).1⟩

end Document
end Screens
