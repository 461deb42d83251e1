import Mathlib.Control.Basic
import Screens.Proofs.Render.Visit

/-! One pass through a screen.

A pass goes through the nodes in one sweep and carries along the faults met so far and the
data sources of the lists it is inside: a fault is put at the end, a source is put on when
a list is entered and taken off when it is left. `Gives` says what a part of the pass comes
to from any state: a value, some more faults, and the sources as they were.

`Pass.node_gives`: whatever was met before, each node gives what its evaluation at a site
of its own gives. So a screen drawn in one pass is the screen drawn node by node
(`Document.renderInPass_eq`). -/
namespace Screens

/-- What a pass carries along. -/
structure Pass where
  /-- The faults met so far. -/
  faults : List Diagnostic
  /-- The data sources of the lists being expanded, the innermost first. -/
  expanding : List String

/-- A part of a pass. -/
abbrev Passing (α : Type) := StateM Pass α

namespace Pass

def start : Pass := ⟨[], []⟩

def report (r : Diagnostic) : Passing Unit :=
  modify fun p => { p with faults := p.faults ++ [r] }

/-- Reports what was met on the way to a value. -/
def record {α : Type} (e : Evaluated α) : Passing α := do
  e.2.forM report
  return e.1

/-- Does something while the list of that source is expanded. -/
def within {α : Type} (source : String) (m : Passing α) : Passing α := do
  modify fun p => { p with expanding := source :: p.expanding }
  let a ← m
  modify fun p => { p with expanding := p.expanding.tail }
  return a

/-- The items of a list, one after the other; without items it is not expanded at all. -/
def expand (scope : Scope) (list source : String) (item : Json → String → Passing RenderNode) :
    Passing (List RenderNode) :=
  match scope.lookup source with
  | some (.arr values) =>
    within source (values.zipIdx.mapM fun v => item v.1 (Evaluate.itemIdentity list v.2))
  | _ => record ([], (Evaluate.items scope list source).2)

/-- A supported node, once all inside it is drawn: its action comes last. -/
def finish (scope : Scope) (face : Face) (c : Common) (text : Option String)
    (resource : Option Resource) (inside : List RenderNode) : Passing RenderNode := do
  let action ← c.action.mapM fun a => record (Evaluate.package scope face.identity a)
  return .mk { face with sourceId := c.id, style := c.style, text, resource, action } inside

mutual

def node (limit : Nat) (n : Node) (scope : Scope) (owner : Option String) (depth : Nat)
    (identity : String) : Passing RenderNode :=
  if limit ≤ depth then
    record (Evaluate.degraded n identity .truncated .depthExceeded s!"nesting exceeds {limit} levels")
  else if !Condition.allHold n.conditions scope then return Evaluate.hidden n identity
  else
    let face := Evaluate.blank identity (Evaluate.kindOf n)
    match n with
    | .unsupported id typeName conditions reason raw =>
      record (Evaluate.degraded (.unsupported id typeName conditions reason raw) identity
        .unsupported .unsupportedType reason.message)
    | .text c text => do
      let text ← record (Evaluate.fill scope identity text)
      finish scope face c (some text) none []
    | .button c label => do
      let text ← record (Evaluate.fill scope identity label)
      finish scope face c (some text) none []
    | .image c source => do
      let resource ← record (Evaluate.locate scope identity source)
      finish scope face c none (some resource) []
    | .container c _ inner => do
      let inside ← children limit inner scope owner (depth + 1) identity 0
      finish scope face c none none inside
    | .list c source item => do
      if (← get).expanding.contains source then
        record (Evaluate.degraded (.list c source item) identity .truncated .listCycle
          s!"`{source}` is already being expanded by an ancestor")
      else
        let inside ← expand scope identity source fun v identity =>
          node limit item (scope.withItem v) (some identity) (depth + 1) identity
        finish scope face c none none inside
    | .spacer c => finish scope face c none none []
    | .divider c => finish scope face c none none []

/-- The children of a node from a place on, one after the other. -/
def children (limit : Nat) (ns : List Node) (scope : Scope) (owner : Option String) (depth : Nat)
    (parent : String) (index : Nat) : Passing (List RenderNode) :=
  match ns with
  | [] => return []
  | n :: rest => do
    let first ← node limit n scope owner depth (Evaluate.childIdentity n parent index owner)
    let others ← children limit rest scope owner depth parent (index + 1)
    return first :: others

end

/-! ### What a part of a pass gives -/

/-- Inside these lists, the value comes out whatever was met before; its faults come after
those, and the lists are the same as before. -/
structure Gives {α : Type} (expanding : List String) (m : Passing α) (e : Evaluated α) : Prop where
  run : ∀ faults, m.run ⟨faults, expanding⟩ = (e.1, ⟨faults ++ e.2, expanding⟩)

namespace Gives

variable {α β : Type} {expanding : List String}

theorem pure (a : α) : Gives expanding (Pure.pure a) (a, []) := by
  refine ⟨fun faults => ?_⟩
  rw [List.append_nil]
  rfl

theorem bind {m : Passing α} {f : α → Passing β} {a : α} {b : β} {met later : List Diagnostic}
    (hm : Gives expanding m (a, met)) (hf : Gives expanding (f a) (b, later)) :
    Gives expanding (m >>= f) (b, met ++ later) := by
  refine ⟨fun faults => ?_⟩
  rw [StateT.run_bind, hm.run faults]
  show (f a).run ⟨faults ++ met, expanding⟩ = _
  rw [hf.run (faults ++ met), List.append_assoc]

/-- What is made of a value alone meets no more faults. -/
theorem map {m : Passing α} {a : α} {met : List Diagnostic} (hm : Gives expanding m (a, met))
    (f : α → β) : Gives expanding (do let a ← m; return f a) (f a, met) := by
  have hvalue : Gives expanding (Pure.pure (f a)) (f a, []) := pure (f a)
  have := hm.bind (f := fun a => Pure.pure (f a)) hvalue
  rwa [List.append_nil] at this

/-- The lists are known, whatever was met. -/
theorem inspect {f : Pass → Passing α} {e : Evaluated α}
    (h : ∀ faults, Gives expanding (f ⟨faults, expanding⟩) e) : Gives expanding (get >>= f) e :=
  ⟨fun faults => (h faults).run faults⟩

theorem record (e : Evaluated α) : Gives expanding (Pass.record e) e := by
  obtain ⟨a, met⟩ := e
  have hreports : Gives expanding (met.forM report) ((), met) := by
    induction met with
    | nil => exact pure ()
    | cons r rest ih =>
      have hreport : Gives expanding (report r) ((), [r]) := ⟨fun _ => rfl⟩
      exact hreport.bind ih
  exact hreports.map fun _ => a

theorem mapM {f : α → Passing RenderNode} {g : α → Evaluated RenderNode} (values : List α)
    (h : ∀ v, Gives expanding (f v) (g v)) :
    Gives expanding (values.mapM f) (Evaluate.inOrder (values.map g)) := by
  induction values with
  | nil => exact pure []
  | cons v rest ih =>
    have hv : Gives expanding (f v) (g v) := h v
    rw [List.mapM_cons]
    exact hv.bind (ih.map ((g v).1 :: ·))

/-- What is done inside one list more leaves the lists there were. -/
theorem within {m : Passing α} {a : α} {met : List Diagnostic} {source : String}
    (h : Gives (source :: expanding) m (a, met)) :
    Gives expanding (Pass.within source m) (a, met) := by
  refine ⟨fun faults => ?_⟩
  rw [Pass.within, StateT.run_bind]
  show (do let a ← m; modify _; return a : Passing α).run ⟨faults, source :: expanding⟩ = _
  rw [StateT.run_bind, h.run faults]
  rfl

end Gives

/-! ### Nodes -/

section Nodes

variable {limit : Nat} {expanding : List String}

theorem finish_gives (scope : Scope) (face : Face) (c : Common) (text : Option String)
    (resource : Option Resource) (inside : List RenderNode) :
    Gives expanding (finish scope face c text resource inside)
      (Evaluate.finish scope face c text resource (inside, [])) := by
  obtain ⟨id, style, action, conditions⟩ := c
  cases action with
  | none => exact Gives.pure _
  | some a =>
    have haction : Gives expanding _ _ := Gives.record (Evaluate.package scope face.identity a)
    exact (haction.map some).map _

/-- A node is finished with what its parts gave. -/
theorem finish_parts {α : Type} {m : Passing α} {e : Evaluated α} (hm : Gives expanding m e)
    (scope : Scope) (face : Face) (c : Common) (text : α → Option String)
    (resource : α → Option Resource) (inside : α → List RenderNode) :
    Gives expanding (do let a ← m; finish scope face c (text a) (resource a) (inside a))
      (Evaluate.finish scope face c (text e.1) (resource e.1) (inside e.1, e.2)) :=
  Gives.bind hm (finish_gives scope face c (text e.1) (resource e.1) (inside e.1))

theorem children_gives (ns : List Node) (site : Site) (parent : String) (index : Nat)
    (h : ∀ n ∈ ns, ∀ identity, Gives site.expanding
      (node limit n site.scope site.owner site.depth identity)
      (Evaluate.node limit n site identity)) :
    Gives site.expanding (children limit ns site.scope site.owner site.depth parent index)
      (Evaluate.inOrder (Evaluate.children limit ns site parent index)) := by
  induction ns generalizing index with
  | nil => exact Gives.pure []
  | cons n rest ih =>
    have hn : Gives site.expanding _ _ :=
      h n List.mem_cons_self (Evaluate.childIdentity n parent index site.owner)
    have hrest := ih (index + 1) fun m hm => h m (List.mem_cons_of_mem n hm)
    rw [children, Evaluate.children]
    exact Gives.bind hn (hrest.map _)

theorem expand_gives {item : Json → String → Passing RenderNode} (n : Node) (site : Site)
    (list source : String)
    (h : ∀ v identity, Gives (source :: site.expanding) (item v identity)
      (Evaluate.node limit n (site.atItem source identity v) identity)) :
    Gives site.expanding (expand site.scope list source item)
      ((Evaluate.inOrder (Evaluate.itemNodes limit source n site list)).1,
        (Evaluate.items site.scope list source).2 ++
          (Evaluate.inOrder (Evaluate.itemNodes limit source n site list)).2) := by
  unfold expand Evaluate.itemNodes Evaluate.items
  cases site.scope.lookup source with
  | none => exact Gives.record _
  | some found =>
    cases found with
    | arr values =>
      exact Gives.within (Gives.mapM values.zipIdx fun v => h v.1 (Evaluate.itemIdentity list v.2))
    | null | bool | num | str | obj => exact Gives.record _

/-- Whatever was met before, a node gives what it gives at a site of its own. -/
theorem node_gives (limit : Nat) (n : Node) (site : Site) (identity : String) :
    Gives site.expanding (node limit n site.scope site.owner site.depth identity)
      (Evaluate.node limit n site identity) := by
  induction n using Node.induction_inside generalizing site identity with
  | step n ih =>
    rw [node.eq_def, Evaluate.node.eq_def]
    by_cases hd : limit ≤ site.depth
    · rw [if_pos hd, if_pos hd]
      exact Gives.record _
    rw [if_neg hd, if_neg hd]
    by_cases ha : (!Condition.allHold n.conditions site.scope) = true
    · rw [if_pos ha, if_pos ha]
      exact Gives.pure _
    rw [if_neg ha, if_neg ha]
    cases n with
    | unsupported => exact Gives.record _
    | spacer c | divider c => exact finish_gives _ _ c none none []
    | text c t | button c t =>
      have htext : Gives site.expanding _ _ := Gives.record (Evaluate.fill site.scope identity t)
      exact finish_parts htext _ _ c some (fun _ => none) fun _ => []
    | image c source =>
      have hresource : Gives site.expanding _ _ :=
        Gives.record (Evaluate.locate site.scope identity source)
      exact finish_parts hresource _ _ c (fun _ => none) some fun _ => []
    | container c kind inner =>
      have hinner := children_gives inner site.inside identity 0 fun m hm id => ih m hm site.inside id
      exact finish_parts hinner _ _ c (fun _ => none) (fun _ => none) id
    | list c source item =>
      refine Gives.inspect fun faults => ?_
      by_cases hc : site.expanding.contains source = true
      · simp only [if_pos hc]
        exact Gives.record _
      · simp only [if_neg hc]
        have hitems := expand_gives item site identity source fun v id =>
          ih item List.mem_cons_self (site.atItem source id v) id
        exact finish_parts hitems _ _ c (fun _ => none) (fun _ => none) id

end Nodes

end Pass

/-! ### Whole screens -/

namespace Document

/-- A screen drawn in one pass. -/
def renderInPass (limit : Nat) (d : Document) (env : Environment) : RenderTree :=
  let (nodes, pass) :=
    (Pass.children limit d.components (.root env) none 0 rootIdentity 0).run .start
  .ofNodes d.id d.version d.title nodes pass.faults

theorem renderInPass_eq (limit : Nat) (d : Document) (env : Environment) :
    d.renderInPass limit env = d.render limit env := by
  have hall := Pass.children_gives d.components (.top env) rootIdentity 0
    fun n _ identity => Pass.node_gives limit n (.top env) identity
  have hrun := hall.run []
  rw [renderInPass]
  show (match (Pass.children limit d.components (Site.top env).scope (Site.top env).owner
    (Site.top env).depth rootIdentity 0).run ⟨[], (Site.top env).expanding⟩ with
    | (nodes, pass) => RenderTree.ofNodes d.id d.version d.title nodes pass.faults) = _
  rw [hrun]
  rfl

end Document
end Screens
