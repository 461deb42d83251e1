import Screens.Proofs.Render.Visit

/-! What is hidden does not show.

A hole is a screen with a place for one node left open: among the nodes of a container, or
in the item template of a list, at any depth. Every node of a screen stands in a hole of it
(`Document.exists_hole`). The node put there is evaluated at the visits of the hole: once
for each way through the items of the lists around it, and not at all where a node around
it is not entered. Each of these visits is a place of the screen (`visits_subset_places`).

`Document.Hole.render_fill_eq`: if the node is hidden wherever it is evaluated, any other of
the same id, type and conditions gives the same tree. -/
namespace Screens

/-! ### Holes -/

/-- A node with a place for another left open. -/
inductive Node.Hole where
  | here
  | inContainer (common : Common) (kind : ContainerKind) (before : List Node) (hole : Node.Hole)
      (after : List Node)
  | inList (common : Common) (source : String) (hole : Node.Hole)

namespace Node.Hole

def fill : Node.Hole → Node → Node
  | here, n => n
  | inContainer c kind before hole after, n => .container c kind (before ++ hole.fill n :: after)
  | inList c source hole, n => .list c source (hole.fill n)

/-- The visits of the node in the hole. -/
def visits (limit : Nat) (n : Node) : Node.Hole → Site → String → List Visit
  | here, site, identity => [⟨n, site, identity⟩]
  | inContainer c kind before hole after, site, identity =>
    let v : Visit := ⟨fill (.inContainer c kind before hole after) n, site, identity⟩
    if v.entered limit then
      visits limit n hole site.inside
        (Evaluate.childIdentity (hole.fill n) identity before.length site.inside.owner)
    else []
  | inList c source hole, site, identity =>
    let v : Visit := ⟨fill (.inList c source hole) n, site, identity⟩
    if v.entered limit then v.inner.flatMap fun w => visits limit n hole w.site w.identity
    else []

end Node.Hole

/-- A screen with a place for a node left open. -/
structure Document.Hole where
  id : String
  version : UInt64
  title : String
  before : List Node
  hole : Node.Hole
  after : List Node

namespace Document.Hole

def fill (h : Document.Hole) (n : Node) : Document :=
  ⟨h.id, h.version, h.title, h.before ++ h.hole.fill n :: h.after⟩

def visits (h : Document.Hole) (limit : Nat) (env : Environment) (n : Node) : List Visit :=
  h.hole.visits limit n (.top env)
    (Evaluate.childIdentity (h.hole.fill n) rootIdentity h.before.length none)

end Document.Hole

/-! ### Every node stands in a hole -/

mutual

theorem Node.exists_hole {m : Node} :
    (n : Node) → m ∈ n.walk → ∃ hole : Node.Hole, hole.fill m = n
  | .container c kind inner, h => by
    rw [Node.walk, List.mem_cons] at h
    rcases h with rfl | h
    · exact ⟨.here, rfl⟩
    · obtain ⟨before, hole, after, rfl⟩ := Node.exists_hole_among inner h
      exact ⟨.inContainer c kind before hole after, rfl⟩
  | .list c source item, h => by
    rw [Node.walk, List.mem_cons] at h
    rcases h with rfl | h
    · exact ⟨.here, rfl⟩
    · obtain ⟨hole, rfl⟩ := Node.exists_hole item h
      exact ⟨.inList c source hole, rfl⟩
  | .text .., h | .button .., h | .image .., h | .spacer _, h | .divider _, h
  | .unsupported .., h => ⟨.here, List.mem_singleton.1 h⟩

theorem Node.exists_hole_among {m : Node} :
    (nodes : List Node) → m ∈ Node.walkAll nodes →
      ∃ (before : List Node) (hole : Node.Hole) (after : List Node),
        before ++ hole.fill m :: after = nodes
  | [], h => by cases h
  | n :: rest, h => by
    rw [Node.walkAll, List.mem_append] at h
    rcases h with h | h
    · obtain ⟨hole, rfl⟩ := Node.exists_hole n h
      exact ⟨[], hole, rest, rfl⟩
    · obtain ⟨before, hole, after, rfl⟩ := Node.exists_hole_among rest h
      exact ⟨n :: before, hole, after, rfl⟩

end

theorem Document.exists_hole {d : Document} {n : Node} (h : n ∈ d.nodes) :
    ∃ hole : Document.Hole, hole.fill n = d := by
  obtain ⟨before, hole, after, heq⟩ := Node.exists_hole_among d.components h
  refine ⟨⟨d.id, d.version, d.title, before, hole, after⟩, ?_⟩
  rw [Document.Hole.fill, heq]

/-! ### Visits of a hole -/

namespace Node.Hole

/-- A hole is visited only where evaluation comes to. -/
theorem visits_subset (limit : Nat) (n : Node) (hole : Node.Hole) (site : Site)
    (identity : String) :
    hole.visits limit n site identity ⊆ Visit.places limit ⟨hole.fill n, site, identity⟩ := by
  induction hole generalizing site identity with
  | here =>
    intro v hv
    rw [Visit.places_eq]
    exact List.mem_cons.2 (.inl (List.mem_singleton.1 hv))
  | inContainer c kind before hole after ih =>
    intro v hv
    rw [visits] at hv
    split at hv
    · rename_i he
      rw [Visit.places_eq, if_pos he]
      refine List.mem_cons_of_mem _ (List.mem_flatMap.2 ⟨_, ?_, ih _ _ hv⟩)
      show _ ∈ Visit.children (before ++ hole.fill n :: after) site.inside identity 0
      rw [Visit.children_append, Nat.zero_add]
      exact List.mem_append_right _ List.mem_cons_self
    · cases hv
  | inList c source hole ih =>
    intro v hv
    rw [visits] at hv
    split at hv
    · rename_i he
      obtain ⟨w, hw, hv⟩ := List.mem_flatMap.1 hv
      rw [Visit.places_eq, if_pos he]
      refine List.mem_cons_of_mem _ (List.mem_flatMap.2 ⟨w, hw, ?_⟩)
      have hn : w.node = hole.fill n := List.mem_singleton.1 (Visit.node_mem_inside hw)
      have hplaces := ih w.site w.identity hv
      rw [← hn] at hplaces
      exact hplaces
    · cases hv

end Node.Hole

/-! ### Nodes that are not entered -/

/-- The same id, type and conditions. For a node that is supported, the kind is the type. -/
structure Node.Alike (n m : Node) : Prop where
  id : n.id? = m.id?
  kind : Evaluate.kindOf n = Evaluate.kindOf m
  typeName : n.typeName? = m.typeName?
  conditions : n.conditions = m.conditions

theorem Evaluate.hidden_eq (n : Node) (identity : String) :
    hidden n identity = .mk { blank identity (kindOf n) with
      visible := false
      sourceId := n.id?
      sourceType := if kindOf n = .unsupported then n.typeName? else none } [] := by
  cases n with
  | container c kind inner => cases kind <;> rfl
  | _ => rfl

namespace Node.Alike

variable {n m : Node} {limit : Nat}

/-- Of a node that is not entered, nothing but its id and type is seen. -/
theorem evaluated_eq (h : n.Alike m) (site : Site) (identity : String)
    (he : Visit.entered limit ⟨n, site, identity⟩ = false) :
    Visit.evaluated limit ⟨n, site, identity⟩ = Visit.evaluated limit ⟨m, site, identity⟩ := by
  rcases Visit.cases_entered limit ⟨n, site, identity⟩ with ⟨hd, _⟩ | ⟨hd, ha, _⟩ | ⟨_, _, ht⟩
  · rw [Visit.evaluated_of_tooDeep hd, Visit.evaluated_of_tooDeep (v := ⟨m, site, identity⟩) hd,
      Evaluate.degraded, Evaluate.degraded, h.id, h.typeName]
  · have hm : Visit.admitted ⟨m, site, identity⟩ = false := by
      rw [← ha, Visit.admitted, Visit.admitted, h.conditions]
    rw [Visit.evaluated_of_not_admitted hd ha,
      Visit.evaluated_of_not_admitted (v := ⟨m, site, identity⟩) hd hm, Evaluate.hidden_eq,
      Evaluate.hidden_eq, h.id, h.kind, h.typeName]
  · rw [he] at ht
    cases ht

theorem childIdentity_eq (h : n.Alike m) (parent : String) (index : Nat) (owner : Option String) :
    Evaluate.childIdentity n parent index owner = Evaluate.childIdentity m parent index owner := by
  unfold Evaluate.childIdentity
  rw [h.id]

theorem fill (h : n.Alike m) (hole : Node.Hole) : (hole.fill n).Alike (hole.fill m) := by
  cases hole with
  | here => exact h
  | inContainer c kind before hole after => exact ⟨rfl, by cases kind <;> rfl, rfl, rfl⟩
  | inList c source hole => exact ⟨rfl, rfl, rfl, rfl⟩

end Node.Alike

/-! ### Around the hole -/

namespace Node.Hole

variable {limit : Nat} {n m : Node}

theorem evaluated_fill (alike : n.Alike m) (hole : Node.Hole) (site : Site) (identity : String)
    (hidden : ∀ v ∈ hole.visits limit n site identity,
      v.site.depth < limit → v.admitted = false) :
    Visit.evaluated limit ⟨hole.fill n, site, identity⟩ =
      Visit.evaluated limit ⟨hole.fill m, site, identity⟩ := by
  induction hole generalizing site identity with
  | here =>
    refine alike.evaluated_eq site identity (eq_false_of_ne_true fun he => ?_)
    obtain ⟨hd, ha⟩ := Visit.of_entered he
    rw [hidden _ List.mem_cons_self hd] at ha
    cases ha
  | inContainer c kind before hole after ih =>
    cases he :
      Visit.entered limit ⟨fill (.inContainer c kind before hole after) n, site, identity⟩ with
    | false => exact (alike.fill _).evaluated_eq site identity he
    | true =>
      rw [visits, if_pos he] at hidden
      have hfront : Visit.front ⟨fill (.inContainer c kind before hole after) n, site, identity⟩ =
          Visit.front ⟨fill (.inContainer c kind before hole after) m, site, identity⟩ := by
        cases kind <;> rfl
      refine Visit.evaluated_congr he he hfront rfl rfl ?_
      show (Visit.children (before ++ hole.fill n :: after) site.inside identity 0).map _ =
        (Visit.children (before ++ hole.fill m :: after) site.inside identity 0).map _
      rw [Visit.children_append, Visit.children_append, List.map_append, List.map_append,
        List.map_cons, List.map_cons, Nat.zero_add, ih site.inside _ hidden,
        (alike.fill hole).childIdentity_eq]
  | inList c source hole ih =>
    cases he : Visit.entered limit ⟨fill (.inList c source hole) n, site, identity⟩ with
    | false => exact (alike.fill _).evaluated_eq site identity he
    | true =>
      rw [visits, if_pos he] at hidden
      refine Visit.evaluated_congr he he rfl rfl rfl ?_
      by_cases hc : site.expanding.contains source = true
      · simp only [fill, Visit.inner, if_pos hc]
      · simp only [fill, Visit.inner, if_neg hc, Visit.items, List.map_map] at hidden ⊢
        refine List.map_congr_left fun v hv => ?_
        exact ih _ _ fun w hw => hidden w (List.mem_flatMap.2 ⟨_, List.mem_map_of_mem hv, hw⟩)

end Node.Hole

/-! ### Whole screens -/

namespace Document.Hole

variable (limit : Nat) (h : Document.Hole) (env : Environment)

theorem top_fill (n : Node) :
    (h.fill n).top env = Visit.children h.before (.top env) rootIdentity 0 ++
      ⟨h.hole.fill n, .top env,
        Evaluate.childIdentity (h.hole.fill n) rootIdentity h.before.length none⟩ ::
      Visit.children h.after (.top env) rootIdentity (h.before.length + 1) := by
  show Visit.children (h.before ++ h.hole.fill n :: h.after) (.top env) rootIdentity 0 = _
  rw [Visit.children_append, Nat.zero_add]
  rfl

/-- The hole is visited only where evaluation of the screen comes to. -/
theorem visits_subset_places (n : Node) :
    h.visits limit env n ⊆ (h.fill n).places limit env := by
  intro v hv
  rw [Document.places, top_fill]
  exact List.mem_flatMap.2 ⟨_, List.mem_append_right _ List.mem_cons_self,
    Node.Hole.visits_subset limit n h.hole _ _ hv⟩

/-- Nothing of a node that is hidden wherever it is evaluated is in the tree, but its id
and its type. -/
theorem render_fill_eq {n m : Node} (alike : n.Alike m)
    (hidden : ∀ v ∈ h.visits limit env n, v.site.depth < limit → v.admitted = false) :
    (h.fill n).render limit env = (h.fill m).render limit env := by
  have heval := Node.Hole.evaluated_fill alike h.hole _ _ hidden
  have htop : ((h.fill n).top env).map (Visit.evaluated limit) =
      ((h.fill m).top env).map (Visit.evaluated limit) := by
    rw [top_fill, top_fill, List.map_append, List.map_append, List.map_cons, List.map_cons, heval,
      (alike.fill h.hole).childIdentity_eq]
  rw [render_eq, render_eq, htop]
  rfl

/-- A list of rows, each with a place for a panel after the name. -/
def roster : Document.Hole where
  id := "roster"
  version := 1
  title := ""
  before := [.ofText "heading" "Roster"]
  hole := .inList (.ofId "rows") "rows"
    (.inContainer (.ofId "row") .vstack [.ofText "name" "\x7b\x7bitem.name\x7d\x7d"] .here [])
  after := []

/-- A panel for staff. -/
def panel (action : Option Action) (inner : List Node) : Node :=
  .container ⟨some "panel", none, action, [⟨"item.staff", .equals, "true"⟩]⟩ .card inner

def fullPanel : Node :=
  panel (some (.ofTarget "open" "/staff/\x7b\x7bitem.name\x7d\x7d"))
    [.ofText "pay" "\x7b\x7bitem.pay\x7d\x7d", .ofList "notes" "gone" (.ofText "note" "")]

/-- An environment with these rows. -/
def rows (found : List Json) : Environment := .ofJson (.obj [("rows", .arr found)])

/-- Two rows, none of them of staff. -/
def guests : Environment := rows [.obj [("staff", .bool false)], .obj []]

theorem roster_hides_panel :
    fullPanel.Alike (panel none []) ∧
      (roster.visits standardDepth guests fullPanel).map (·.identity) =
        ["rows#0/panel", "rows#1/panel"] ∧
      (∀ v ∈ roster.visits standardDepth guests fullPanel,
        v.site.depth < standardDepth → v.admitted = false) ∧
      (roster.fill fullPanel).render standardDepth guests =
        (roster.fill (panel none [])).render standardDepth guests := by
  have alike : fullPanel.Alike (panel none []) := ⟨rfl, rfl, rfl, rfl⟩
  have hidden : ∀ v ∈ roster.visits standardDepth guests fullPanel,
      v.site.depth < standardDepth → v.admitted = false := by decide +kernel
  exact ⟨alike, by decide +kernel, hidden, render_fill_eq standardDepth roster guests alike hidden⟩

/-- A row of staff shows the panel. -/
example :
    (roster.fill fullPanel).render standardDepth (rows [.obj [("staff", .bool true)]]) ≠
      (roster.fill (panel none [])).render standardDepth
        (rows [.obj [("staff", .bool true)]]) := by
  decide +kernel

end Document.Hole
end Screens
