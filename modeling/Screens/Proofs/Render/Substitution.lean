import Screens.Proofs.Render.Mentions

/-! An item of a list is the template with the item bound.

A node is drawn alike at two sites, identities apart, if their scopes answer alike what is
mentioned inside it, if as many levels are left below the limit, and if the same of its
lists are being expanded around it (`Visit.anonymous_drawn`): each of these passes on to
what is inside. A list item in its scope and the template alone in an environment with the
item bound to `item` are two such sites.

`Document.drawn_list_items`: so a list at the top has one child for each item, named by the
list and its place, and but for the names it is the template evaluated with the item bound,
one level less left. -/
namespace Screens

/-! ### Nodes without their identities -/

/-- The face under another identity. -/
def Face.named (identity : String) (f : Face) : Face :=
  { f with identity, resource := f.resource.map fun r => { r with identity } }

namespace RenderNode

/-- The node, and all inside it, without identities. -/
def anonymous (n : RenderNode) : RenderNode := n.mapFaces (Face.named "")

theorem anonymous_mk (face : Face) (children : List RenderNode) :
    (mk face children).anonymous = .mk (face.named "") (children.map anonymous) := by
  rw [anonymous, mapFaces, mapFacesOf_eq]
  rfl

end RenderNode

namespace Evaluate

/-- What a text is filled in with does not depend on where its faults are put down. -/
theorem fill_text (scope : Scope) (identity other template : String) :
    (fill scope identity template).1 = (fill scope other template).1 := by
  unfold fill
  split <;> rfl

theorem package_action (scope : Scope) (identity other : String) (a : Action) :
    (package scope identity a).1 = (package scope other a).1 := by
  simp only [package, fill_text scope identity other]

theorem items_values (scope : Scope) (identity other source : String) :
    (items scope identity source).1 = (items scope other source).1 := by
  rw [items, items]
  split <;> rfl

end Evaluate

namespace Visit

theorem named_front (n : Node) (site : Site) (identity other : String) :
    (front ⟨n, site, identity⟩).named other = front ⟨n, site, other⟩ := by
  have haction := Evaluate.package_action site.scope identity other
  have hfill := Evaluate.fill_text site.scope identity other
  cases n with
  | unsupported => rfl
  | spacer c | divider c | container c kind inner => simp only [front, haction]; rfl
  | text c text | button c text => simp only [front, haction, hfill]; rfl
  | image c source =>
    cases source <;> simp only [front, Evaluate.locate, haction, hfill] <;> rfl
  | list c source item =>
    by_cases hc : site.expanding.contains source = true
    · simp only [front, if_pos hc]
      rfl
    · simp only [front, if_neg hc, haction]
      rfl

end Visit

/-! ### Sites that are alike -/

namespace Node

/-- The data sources of the lists at a node and inside it. -/
def sources (n : Node) : List String := n.walk.filterMap source?

/-- The paths mentioned at a node and inside it. -/
def allMentions (n : Node) : List String := n.walk.flatMap mentions

end Node

/-- What two sites have in common where a node is drawn alike below two depth limits. -/
structure Site.Alike (n : Node) (limit : Nat) (s : Site) (other : Nat) (t : Site) : Prop where
  scope : s.scope.AgreeOn n.allMentions t.scope
  /-- As many levels are left. -/
  depth : s.depth + other = t.depth + limit
  expanding : ∀ source ∈ n.sources,
    s.expanding.contains source = t.expanding.contains source

namespace Site.Alike

variable {n m : Node} {limit other : Nat} {s t : Site}

theorem own (h : Alike n limit s other t) : s.scope.AgreeOn n.mentions t.scope :=
  h.scope.mono fun _ hp => List.mem_flatMap.2 ⟨n, n.mem_walk_self, hp⟩

theorem inside (h : Alike n limit s other t) (hm : m ∈ n.inside) :
    Alike m limit s.inside other t.inside := by
  have hwalk := Node.walk_subset_of_mem_inside hm
  refine ⟨h.scope.mono fun p hp => ?_, ?_, fun source hsource => ?_⟩
  · obtain ⟨k, hk, hpath⟩ := List.mem_flatMap.1 hp
    exact List.mem_flatMap.2 ⟨k, hwalk hk, hpath⟩
  · have := h.depth
    show s.depth + 1 + other = t.depth + 1 + limit
    omega
  · obtain ⟨k, hk, hlist⟩ := List.mem_filterMap.1 hsource
    exact h.expanding source (List.mem_filterMap.2 ⟨k, hwalk hk, hlist⟩)

theorem atItem (h : Alike n limit s other t) (hm : m ∈ n.inside) (source : String)
    (identity name : String) (v : Json) :
    Alike m limit (s.atItem source identity v) other (t.atItem source name v) := by
  obtain ⟨hscope, hdepth, hexpanding⟩ := h.inside hm
  refine ⟨hscope.withItem v, hdepth, fun inner hinner => ?_⟩
  have := hexpanding inner hinner
  simp only [Site.atItem, List.contains_cons]
  exact congrArg (inner == source || ·) this

end Site.Alike

namespace Visit

variable {limit other : Nat}

theorem cyclic_congr {n : Node} {s t : Site} (h : Site.Alike n limit s other t)
    (identity name : String) : cyclic ⟨n, s, identity⟩ = cyclic ⟨n, t, name⟩ := by
  cases n with
  | list c source item =>
    exact h.expanding source (List.mem_filterMap.2 ⟨_, Node.mem_walk_self _, rfl⟩)
  | text | button | image | container | spacer | divider | unsupported => rfl

/-- The same is visited inside, each at sites that are alike. -/
theorem inner_alike {n : Node} {s t : Site} (h : Site.Alike n limit s other t)
    (identity name : String) {f g : Visit → RenderNode}
    (hdrawn : ∀ m ∈ n.inside, ∀ {s t : Site}, Site.Alike m limit s other t →
      ∀ identity name, f ⟨m, s, identity⟩ = g ⟨m, t, name⟩) :
    (inner ⟨n, s, identity⟩).map f = (inner ⟨n, t, name⟩).map g := by
  cases n with
  | container c kind nodes =>
    simp only [inner, children, List.map_map]
    apply List.map_congr_left
    rintro ⟨m, i⟩ hm
    have hmem : m ∈ nodes := List.fst_mem_of_mem_zipIdx hm
    exact hdrawn m hmem (h.inside hmem) _ _
  | list c source item =>
    have hself : item ∈ (Node.list c source item).inside := List.mem_cons_self
    have hcyclic : s.expanding.contains source = t.expanding.contains source :=
      cyclic_congr h identity name
    have hsource : s.scope.lookup source = t.scope.lookup source := lookup_congr h.own
    have hvalues : (Evaluate.items s.scope identity source).1 =
        (Evaluate.items t.scope name source).1 := by
      rw [Evaluate.items_congr identity hsource, Evaluate.items_values]
    simp only [inner, hcyclic]
    split
    · rfl
    · simp only [items, hvalues, List.map_map]
      apply List.map_congr_left
      rintro ⟨v, i⟩ -
      exact hdrawn item hself (h.atItem hself source _ _ v) _ _
  | text | button | image | spacer | divider | unsupported => rfl

/-- At sites that are alike a node is drawn alike, identities apart. -/
theorem anonymous_drawn (n : Node) {s t : Site} (h : Site.Alike n limit s other t)
    (identity name : String) :
    (drawn limit ⟨n, s, identity⟩).anonymous = (drawn other ⟨n, t, name⟩).anonymous := by
  induction n using Node.induction_inside generalizing s t identity name with
  | step n ih =>
    have hdepth : limit ≤ s.depth ↔ other ≤ t.depth := by
      have := h.depth
      omega
    have hadmitted := admitted_congr h.own identity name
    rcases cases_entered limit ⟨n, s, identity⟩ with ⟨hd, _⟩ | ⟨hd, ha, _⟩ | ⟨hd, ha, he⟩
    · rw [drawn_of_tooDeep hd, drawn_of_tooDeep (v := ⟨n, t, name⟩) (hdepth.1 hd)]
      rfl
    · have hd' : t.depth < other := Nat.not_le.1 fun hle => Nat.not_le.2 hd (hdepth.2 hle)
      have ha' : admitted ⟨n, t, name⟩ = false := hadmitted ▸ ha
      rw [drawn, evaluated_of_not_admitted hd ha, drawn, evaluated_of_not_admitted hd' ha']
      rfl
    · have hd' : t.depth < other := Nat.not_le.1 fun hle => Nat.not_le.2 hd (hdepth.2 hle)
      have he' : entered other ⟨n, t, name⟩ = true := by
        rw [entered, ← hadmitted, ha]
        simpa using hd'
      have hface := front_congr h.own "" (cyclic_congr h "" "")
      have hinner := inner_alike h identity name
        (f := fun v => (v.drawn limit).anonymous) (g := fun v => (v.drawn other).anonymous) ih
      rw [drawn_of_entered he, drawn_of_entered he', RenderNode.anonymous_mk,
        RenderNode.anonymous_mk, named_front, named_front, hface, List.map_map, List.map_map]
      exact congrArg _ hinner

end Visit

/-! ### Items -/

/-- The item in scope below its list, and bound for the template alone. -/
theorem Site.alike_item {env : Environment} (henv : env.WithoutItem) {limit : Nat}
    (hlimit : 1 ≤ limit) {source : String} {item : Node} (hsource : source ∉ item.sources)
    (identity : String) (v : Json) :
    Alike item limit ((top env).atItem source identity v) (limit - 1)
      (top (env.insert "item" v)) := by
  refine ⟨fun path _ => Scope.lookup_insert_item henv v path, ?_, fun inner hinner => ?_⟩
  · show 0 + 1 + (limit - 1) = 0 + limit
    omega
  · have hne : inner ≠ source := by
      rintro rfl
      exact hsource hinner
    show [source].contains inner = [].contains inner
    simp [hne]

namespace Document

/-- The node at a place at the top is drawn from the node of the template there. -/
theorem render_nodes_getElem? (limit : Nat) (d : Document) (env : Environment) {place : Nat}
    {n : Node} (h : d.components[place]? = some n) :
    (d.render limit env).nodes[place]? =
      some (Visit.drawn limit ⟨n, .top env, Evaluate.childIdentity n rootIdentity place none⟩) := by
  rw [render_nodes, top, Visit.children, List.getElem?_map, List.getElem?_map, List.getElem?_zipIdx,
    h, Nat.zero_add]
  rfl

theorem drawn_list_items (limit : Nat) (d : Document) (env : Environment) {place : Nat}
    {c : Common} {source : String} {item : Node} {values : List Json} (hlimit : 1 ≤ limit)
    (henv : env.WithoutItem) (hplace : d.components[place]? = some (.list c source item))
    (hshown : Condition.allHold c.conditions (.root env) = true)
    (hvalues : env.get source = some (.arr values)) (hsource : source ∉ item.sources) :
    ∃ list : RenderNode, (d.render limit env).nodes[place]? = some list ∧
      list.face.kind = .list ∧ list.face.visible = true ∧
      list.children.map (·.face.identity) =
        (List.range values.length).map (Evaluate.itemIdentity list.face.identity) ∧
      list.children.map RenderNode.anonymous =
        values.map fun v => (item.evaluate (limit - 1) (env.insert "item" v)).anonymous := by
  let v : Visit := ⟨.list c source item, .top env,
    Evaluate.childIdentity (.list c source item) rootIdentity place none⟩
  have hentered : v.entered limit = true := by
    have hd : v.site.depth < limit := hlimit
    have ha : v.admitted = true := hshown
    simp [Visit.entered, hd, ha]
  have hfound : (Evaluate.items v.site.scope v.identity source).1 = values := by
    have hlookup : v.site.scope.lookup source = some (.arr values) := by
      rw [← hvalues]
      exact Scope.lookup_root env source
    rw [Evaluate.items, hlookup]
  have hinner : v.inner = values.zipIdx.map fun e =>
      ⟨item, v.site.atItem source (Evaluate.itemIdentity v.identity e.2) e.1,
        Evaluate.itemIdentity v.identity e.2⟩ := by
    show Visit.items source item v.site v.identity = _
    rw [Visit.items, hfound]
  have hdrawn := Visit.drawn_of_entered hentered
  have hidentity := v.drawn_identity limit
  refine ⟨v.drawn limit, render_nodes_getElem? limit d env hplace, ?_, ?_, ?_, ?_⟩
  · rw [hdrawn]
    rfl
  · rw [hdrawn]
    rfl
  · rw [hidentity, hdrawn, RenderNode.children, hinner, List.map_map, List.map_map,
      List.range_eq_range', ← List.zipIdx_map_snd, List.map_map]
    exact List.map_congr_left fun e _ => Visit.drawn_identity limit _
  · have hfirst : values = values.zipIdx.map (·.1) := (List.zipIdx_map_fst 0 values).symm
    rw [hdrawn, RenderNode.children, hinner, List.map_map, List.map_map]
    conv_rhs => rw [hfirst, List.map_map]
    apply List.map_congr_left
    intro e _
    exact Visit.anonymous_drawn item (Site.alike_item henv hlimit hsource _ e.1) _ _

/-- A row with its name and a list of its cells. -/
def shelf : Node :=
  .ofContainer .vstack "shelf" [.ofText "name" "\x7b\x7bitem.name\x7d\x7d",
    .ofList "cells" "item.cells" (.ofText "cell" "\x7b\x7bitem\x7d\x7d")]

def shelves : Document :=
  .ofComponents "shelves" "" [.ofText "head" "Shelves", .ofList "shelves" "rows" shelf]

/-- Three shelves, one with cells, one a mere text and one `null`. -/
def stock : Environment :=
  .ofJson (.obj [("rows", .arr [.obj [("name", .str "top"), ("cells", .arr [.bool true, .null])],
    .str "bare", .null])])

/-- The shelves are drawn as one by one, with the cells cut off at the depth limit. -/
theorem shelves_one_by_one :
    stock.WithoutItem ∧ "rows" ∉ shelf.sources ∧
      ∃ list : RenderNode, (shelves.render 3 stock).nodes[1]? = some list ∧
        list.children.map (·.face.identity) = ["shelves#0", "shelves#1", "shelves#2"] ∧
        list.children.map RenderNode.anonymous =
          [.obj [("name", .str "top"), ("cells", .arr [.bool true, .null])], .str "bare", .null].map
            fun v => (shelf.evaluate 2 (stock.insert "item" v)).anonymous := by
  have hstock : stock.WithoutItem := by decide +kernel
  have hsource : "rows" ∉ shelf.sources := by decide +kernel
  have hplace : shelves.components[1]? = some (.list (.ofId "shelves") "rows" shelf) := rfl
  have hshown : Condition.allHold (Common.ofId "shelves").conditions (.root stock) = true := rfl
  have hvalues : stock.get "rows" = some (.arr
      [.obj [("name", .str "top"), ("cells", .arr [.bool true, .null])], .str "bare", .null]) := by
    decide +kernel
  obtain ⟨list, hlist, -, -, hnames, hitems⟩ :=
    drawn_list_items 3 shelves stock (by decide) hstock hplace hshown hvalues hsource
  have hidentity : list.face.identity = "shelves" := by
    have hface : ((shelves.render 3 stock).nodes[1]?.map (·.face.identity)) = some "shelves" := by
      decide +kernel
    rw [hlist] at hface
    exact Option.some.inj hface
  rw [hidentity] at hnames
  exact ⟨hstock, hsource, list, hlist, hnames, hitems⟩

end Document
end Screens
