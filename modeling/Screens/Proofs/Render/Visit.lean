import Screens.Proofs.Render.Shape

/-! Where evaluation comes to.

A visit is a template node at the place where it is evaluated. A node that is too deep is
truncated and one whose conditions do not all hold is hidden; any other is entered, and
what is drawn inside it are the nodes drawn at the visits right inside
(`evaluated_of_entered`). The places of a visit are the visit itself and all places below
it, in the order in which the nodes are drawn (`places_eq`). -/
namespace Screens

/-- A template node where it is evaluated, and the identity it is to have. -/
structure Visit where
  node : Node
  site : Site
  identity : String

/-- The visits of nodes side by side, from a place on. -/
def Visit.children (nodes : List Node) (site : Site) (parent : String) (index : Nat) : List Visit :=
  (nodes.zipIdx index).map fun (n, i) =>
    ⟨n, site, Evaluate.childIdentity n parent i site.owner⟩

/-- The visits of the items of a list. -/
def Visit.items (source : String) (item : Node) (site : Site) (list : String) : List Visit :=
  (Evaluate.items site.scope list source).1.zipIdx.map fun (v, i) =>
    ⟨item, site.atItem source (Evaluate.itemIdentity list i) v, Evaluate.itemIdentity list i⟩

namespace Evaluate

mutual

/-- The places below a node, itself the first. -/
def places (limit : Nat) (n : Node) (site : Site) (identity : String) : List Visit :=
  ⟨n, site, identity⟩ ::
    if limit ≤ site.depth then []
    else if !Condition.allHold n.conditions site.scope then []
    else match n with
      | .container _ _ inner => placesAmong limit inner site.inside identity 0
      | .list _ source item =>
        if site.expanding.contains source then []
        else (items site.scope identity source).1.zipIdx.flatMap fun (v, index) =>
          let identity := itemIdentity identity index
          places limit item (site.atItem source identity v) identity
      | _ => []

/-- The places below the children of a node from a place on. -/
def placesAmong (limit : Nat) (ns : List Node) (site : Site) (parent : String) (index : Nat) :
    List Visit :=
  match ns with
  | [] => []
  | n :: rest =>
    places limit n site (childIdentity n parent index site.owner) ++
      placesAmong limit rest site parent (index + 1)

end

end Evaluate

namespace Visit

variable {limit : Nat} {v : Visit}

/-- What evaluation gives. -/
def evaluated (limit : Nat) (v : Visit) : Evaluated RenderNode :=
  Evaluate.node limit v.node v.site v.identity

/-- The node that is drawn. -/
def drawn (limit : Nat) (v : Visit) : RenderNode := (v.evaluated limit).1

/-- The faults met at the node and below it. -/
def faults (limit : Nat) (v : Visit) : List Diagnostic := (v.evaluated limit).2

/-- The conditions hold where the node stands. -/
def admitted (v : Visit) : Bool := Condition.allHold v.node.conditions v.site.scope

/-- Neither too deep nor hidden. -/
def entered (limit : Nat) (v : Visit) : Bool := decide (v.site.depth < limit) && v.admitted

/-- A list whose data source a list around it is expanding. -/
def cyclic (v : Visit) : Bool :=
  match v.node with
  | .list _ source _ => v.site.expanding.contains source
  | _ => false

/-- The visits right inside, where the node is entered. -/
def inner (v : Visit) : List Visit :=
  match v.node with
  | .container _ _ nodes => children nodes v.site.inside v.identity 0
  | .list _ source item =>
    if v.site.expanding.contains source then [] else items source item v.site v.identity
  | _ => []

def places (limit : Nat) (v : Visit) : List Visit :=
  Evaluate.places limit v.node v.site v.identity

theorem node_mem_of_mem_children {nodes : List Node} {site : Site} {parent : String} {index : Nat}
    {w : Visit} (h : w ∈ children nodes site parent index) : w.node ∈ nodes := by
  obtain ⟨⟨m, i⟩, hm, rfl⟩ := List.mem_map.1 h
  exact List.fst_mem_of_mem_zipIdx hm

theorem node_mem_inside {w : Visit} (h : w ∈ v.inner) : w.node ∈ v.node.inside := by
  unfold inner at h
  split at h
  · rename_i c kind nodes hn
    rw [hn]
    exact node_mem_of_mem_children h
  · rename_i c source item hn
    rw [hn]
    split at h
    · cases h
    · obtain ⟨_, _, rfl⟩ := List.mem_map.1 h
      exact List.mem_cons_self
  · cases h

/-- What holds of a visit as soon as it holds of those right inside holds of every visit. -/
theorem induction_inner {P : Visit → Prop} (step : ∀ v, (∀ w ∈ v.inner, P w) → P v) (v : Visit) :
    P v := by
  obtain ⟨n, site, identity⟩ := v
  induction n using Node.induction_inside generalizing site identity with
  | step n ih => exact step _ fun w hw => ih w.node (node_mem_inside hw) w.site w.identity

theorem evaluated_children (limit : Nat) (nodes : List Node) (site : Site) (parent : String)
    (index : Nat) :
    Evaluate.children limit nodes site parent index =
      (children nodes site parent index).map (evaluated limit) := by
  induction nodes generalizing index with
  | nil => rfl
  | cons n rest ih =>
    rw [Evaluate.children, ih, children, children, List.zipIdx_cons, List.map_cons, List.map_cons]
    rfl

theorem places_children (limit : Nat) (nodes : List Node) (site : Site) (parent : String)
    (index : Nat) :
    Evaluate.placesAmong limit nodes site parent index =
      (children nodes site parent index).flatMap (places limit) := by
  induction nodes generalizing index with
  | nil => rfl
  | cons n rest ih =>
    rw [Evaluate.placesAmong, ih, children, children, List.zipIdx_cons, List.map_cons,
      List.flatMap_cons]
    rfl

theorem children_append (before : List Node) (n : Node) (after : List Node) (site : Site)
    (parent : String) (index : Nat) :
    children (before ++ n :: after) site parent index =
      children before site parent index ++
        ⟨n, site, Evaluate.childIdentity n parent (index + before.length) site.owner⟩ ::
        children after site parent (index + before.length + 1) := by
  rw [children, children, children, List.zipIdx_append, List.zipIdx_cons, List.map_append,
    List.map_cons]

/-- A visit is too deep, or its node is hidden, or it is entered. -/
theorem cases_entered (limit : Nat) (v : Visit) :
    (limit ≤ v.site.depth ∧ v.entered limit = false) ∨
    (v.site.depth < limit ∧ v.admitted = false ∧ v.entered limit = false) ∨
    (v.site.depth < limit ∧ v.admitted = true ∧ v.entered limit = true) := by
  unfold entered
  rcases Nat.lt_or_ge v.site.depth limit with hd | hd
  · cases ha : v.admitted with
    | false => exact .inr (.inl ⟨hd, rfl, by simp⟩)
    | true => exact .inr (.inr ⟨hd, rfl, by simp [hd]⟩)
  · exact .inl ⟨hd, by simp [Nat.not_lt.2 hd]⟩

theorem of_entered (h : v.entered limit = true) : v.site.depth < limit ∧ v.admitted = true := by
  simpa [entered] using h

theorem places_eq (limit : Nat) (v : Visit) :
    v.places limit =
      v :: if v.entered limit = true then v.inner.flatMap (places limit) else [] := by
  rcases cases_entered limit v with ⟨hd, he⟩ | ⟨hd, ha, he⟩ | ⟨hd, ha, he⟩
  · rw [he, places, Evaluate.places.eq_def, if_pos hd]
    rfl
  · unfold admitted at ha
    rw [he, places, Evaluate.places.eq_def, if_neg (Nat.not_le.2 hd), ha]
    rfl
  · unfold admitted at ha
    rw [he, if_pos rfl, places, Evaluate.places.eq_def, if_neg (Nat.not_le.2 hd), ha, Bool.not_true,
      if_neg Bool.false_ne_true]
    obtain ⟨n, site, identity⟩ := v
    cases n with
    | container c kind nodes =>
      exact congrArg _ (places_children limit nodes site.inside identity 0)
    | list c source item =>
      by_cases hc : site.expanding.contains source = true
      · simp only [inner, if_pos hc, List.flatMap_nil]
      · simp only [inner, if_neg hc, items, List.flatMap_map]
        rfl
    | text | button | image | spacer | divider | unsupported => rfl

/-! ### What an entered node is made of -/

/-- The face of an entered node. -/
def front (v : Visit) : Face :=
  let worn (c : Common) : Face :=
    { Evaluate.blank v.identity (Evaluate.kindOf v.node) with
      sourceId := c.id
      style := c.style
      action := c.action.map fun a => (Evaluate.package v.site.scope v.identity a).1 }
  match v.node with
  | .unsupported id typeName .. =>
    { Evaluate.blank v.identity .unsupported with sourceId := id, sourceType := typeName }
  | .list c source _ =>
    if v.site.expanding.contains source then
      { Evaluate.blank v.identity .truncated with sourceId := c.id, sourceType := some "list" }
    else worn c
  | .text c text | .button c text =>
    { worn c with text := some (Evaluate.fill v.site.scope v.identity text).1 }
  | .image c source =>
    { worn c with resource := some (Evaluate.locate v.site.scope v.identity source).1 }
  | .container c .. | .spacer c | .divider c => worn c

/-- The faults met at an entered node before the nodes inside it. -/
def opening (v : Visit) : List Diagnostic :=
  match v.node with
  | .unsupported _ _ _ reason _ => [⟨v.identity, .unsupportedType, reason.message⟩]
  | .list _ source _ =>
    if v.site.expanding.contains source then
      [⟨v.identity, .listCycle, s!"`{source}` is already being expanded by an ancestor"⟩]
    else (Evaluate.items v.site.scope v.identity source).2
  | .text _ text | .button _ text => (Evaluate.fill v.site.scope v.identity text).2
  | .image _ source => (Evaluate.locate v.site.scope v.identity source).2
  | .container .. | .spacer _ | .divider _ => []

/-- The faults met in the action of an entered node, after the nodes inside it. -/
def closing (v : Visit) : List Diagnostic :=
  if v.cyclic then []
  else match v.node.common?.bind (·.action) with
    | some a => (Evaluate.package v.site.scope v.identity a).2
    | none => []

theorem evaluated_of_tooDeep (h : limit ≤ v.site.depth) :
    v.evaluated limit = Evaluate.degraded v.node v.identity .truncated .depthExceeded
      s!"nesting exceeds {limit} levels" := by
  rw [evaluated, Evaluate.node.eq_def, if_pos h]

theorem evaluated_of_not_admitted (hd : v.site.depth < limit) (h : v.admitted = false) :
    v.evaluated limit = (Evaluate.hidden v.node v.identity, []) := by
  unfold admitted at h
  rw [evaluated, Evaluate.node.eq_def, if_neg (Nat.not_le.2 hd), h]
  rfl

theorem evaluated_of_entered (h : v.entered limit = true) :
    v.evaluated limit = (.mk v.front (v.inner.map (drawn limit)),
      v.opening ++ v.inner.flatMap (faults limit) ++ v.closing) := by
  obtain ⟨hd, ha⟩ := of_entered h
  unfold admitted at ha
  rw [evaluated, Evaluate.node.eq_def, if_neg (Nat.not_le.2 hd), ha, Bool.not_true,
    if_neg Bool.false_ne_true]
  obtain ⟨n, site, identity⟩ := v
  cases n with
  | container c kind nodes =>
    obtain ⟨id, style, action, conditions⟩ := c
    have hinner := evaluated_children limit nodes site.inside identity 0
    simp only [Evaluate.inOrder, hinner, List.map_map, List.flatMap_map]
    cases action <;> rfl
  | list c source item =>
    obtain ⟨id, style, action, conditions⟩ := c
    by_cases hc : site.expanding.contains source = true
    · simp only [front, inner, opening, closing, cyclic, hc]
      rfl
    · have hitems : (Evaluate.items site.scope identity source).1.zipIdx.map (fun (v, index) =>
          Evaluate.node limit item (site.atItem source (Evaluate.itemIdentity identity index) v)
            (Evaluate.itemIdentity identity index)) =
          (items source item site identity).map (evaluated limit) := by
        rw [items, List.map_map]
        rfl
      simp only [front, inner, opening, closing, cyclic, hc, Evaluate.inOrder, hitems, List.map_map,
        List.flatMap_map]
      cases action <;> rfl
  | text c t | button c t | image c t =>
    obtain ⟨id, style, action, conditions⟩ := c
    simp only [inner, List.flatMap_nil, List.append_nil]
    cases action <;> rfl
  | spacer c | divider c =>
    obtain ⟨id, style, action, conditions⟩ := c
    cases action <;> rfl
  | unsupported => rfl

theorem drawn_of_entered (h : v.entered limit = true) :
    v.drawn limit = .mk v.front (v.inner.map (drawn limit)) := by
  rw [drawn, evaluated_of_entered h]

theorem faults_of_entered (h : v.entered limit = true) :
    v.faults limit = v.opening ++ v.inner.flatMap (faults limit) ++ v.closing := by
  rw [faults, evaluated_of_entered h]

/-- Two entered nodes of one face, with the same faults of their own, differ by what is
inside them only. -/
theorem evaluated_congr {other : Nat} {w : Visit} (hv : v.entered limit = true)
    (hw : w.entered other = true) (hfront : v.front = w.front) (hopening : v.opening = w.opening)
    (hclosing : v.closing = w.closing)
    (hinner : v.inner.map (evaluated limit) = w.inner.map (evaluated other)) :
    v.evaluated limit = w.evaluated other := by
  have hdrawn : v.inner.map (drawn limit) = w.inner.map (drawn other) := by
    have := congrArg (List.map (·.1)) hinner
    rw [List.map_map, List.map_map] at this
    exact this
  have hfaults : v.inner.flatMap (faults limit) = w.inner.flatMap (faults other) := by
    have := congrArg (List.flatMap (·.2)) hinner
    rw [List.flatMap_map, List.flatMap_map] at this
    exact this
  rw [evaluated_of_entered hv, evaluated_of_entered hw, hfront, hopening, hclosing, hdrawn, hfaults]

theorem drawn_identity (limit : Nat) (v : Visit) : (v.drawn limit).face.identity = v.identity :=
  Evaluate.node_identity limit v.node v.site v.identity

theorem front_visible (v : Visit) : v.front.visible = true := by
  unfold front
  split <;> try rfl
  split <;> rfl

end Visit

/-! ### Whole screens -/

namespace Document

/-- The visits of the nodes at the top. -/
def top (d : Document) (env : Environment) : List Visit :=
  Visit.children d.components (.top env) rootIdentity 0

theorem render_nodes (limit : Nat) (d : Document) (env : Environment) :
    (d.render limit env).nodes = (d.top env).map (Visit.drawn limit) := by
  show (Evaluate.children limit d.components (.top env) rootIdentity 0).map (·.1) = _
  rw [Visit.evaluated_children, List.map_map]
  rfl

theorem render_diagnostics (limit : Nat) (d : Document) (env : Environment) :
    (d.render limit env).diagnostics = (d.top env).flatMap (Visit.faults limit) := by
  show (Evaluate.children limit d.components (.top env) rootIdentity 0).flatMap (·.2) = _
  rw [Visit.evaluated_children, List.flatMap_map]
  rfl

/-- A tree is made of what evaluation gives at the visits at the top. -/
theorem render_eq (limit : Nat) (d : Document) (env : Environment) :
    d.render limit env = .ofNodes d.id d.version d.title
      (((d.top env).map (Visit.evaluated limit)).map (·.1))
      (((d.top env).map (Visit.evaluated limit)).flatMap (·.2)) := by
  rw [top, ← Visit.evaluated_children]
  rfl

/-- All places evaluation comes to, in the order of the nodes that are drawn. -/
def places (limit : Nat) (d : Document) (env : Environment) : List Visit :=
  (d.top env).flatMap (Visit.places limit)

end Document
end Screens
