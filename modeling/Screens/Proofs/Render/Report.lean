import Mathlib.Data.List.Perm.Basic
import Screens.Proofs.Environment.Tokens
import Screens.Proofs.Render.Visit

/-! What is reported of a rendered tree.

The visible nodes of a tree are those drawn at the places that are shown
(`visibleNodes_drawn`). Each place adds faults of its own (`Visit.own`), and what is
reported of a tree is what its places add: in all as often (`faults_perm`), and in the
order of the places but for the unresolved tokens of actions, which come after the nodes
inside (`structural_faults`). What a place adds can be seen from the node drawn there: a
fault of structure exactly if the node is degraded (`own_structural`), and one fault for
each token that is not resolved if it is not (`countP_own`).

`Document.render_reports`: so the faults of structure are the degraded nodes, in their
order and each once, and the others are the unresolved tokens of the nodes that are not
degraded. -/
namespace Screens

/-! ### Visible nodes -/

namespace RenderNode

mutual

/-- The nodes reached through visible nodes, a node before those inside it. -/
def visibleNodes : RenderNode → List RenderNode
  | mk face children => if face.visible then mk face children :: visibleNodesOf children else []

def visibleNodesOf : List RenderNode → List RenderNode
  | [] => []
  | n :: rest => n.visibleNodes ++ visibleNodesOf rest

end

mutual

theorem faces_visibleNodes (n : RenderNode) : n.visibleNodes.map face = n.visibleFaces := by
  obtain ⟨f, children⟩ := n
  rw [visibleNodes, visibleFaces]
  split
  · exact congrArg (f :: ·) (faces_visibleNodesOf children)
  · rfl

theorem faces_visibleNodesOf (nodes : List RenderNode) :
    (visibleNodesOf nodes).map face = visibleFacesOf nodes := by
  match nodes with
  | [] => rfl
  | n :: rest =>
    rw [visibleNodesOf, visibleFacesOf, List.map_append, faces_visibleNodes n,
      faces_visibleNodesOf rest]

end

theorem visibleNodesOf_eq (nodes : List RenderNode) :
    visibleNodesOf nodes = nodes.flatMap visibleNodes := by
  induction nodes with
  | nil => rfl
  | cons n rest ih => rw [visibleNodesOf, ih, List.flatMap_cons]

end RenderNode

/-! ### Texts, and the faults met in them -/

/-- The texts of an action in which tokens are replaced. -/
def Action.texts (a : Action) : List String := a.target :: a.parameters.entries.map (·.2)

namespace Node

/-- The texts of a node in which tokens are replaced, but for its action. -/
def ownTexts : Node → List String
  | text _ t | button _ t => [t]
  | image _ (.remote url) => [url]
  | image _ (.bundled name) => [name]
  | container .. | list .. | spacer _ | divider _ | unsupported .. => []

def actionTexts (n : Node) : List String :=
  ((n.common?.bind (·.action)).map Action.texts).getD []

end Node

/-- Any fault but an unresolved token. -/
def Diagnostic.structural (r : Diagnostic) : Bool := r.kind != .unresolvedBinding

namespace Evaluate

theorem fill_faults (scope : Scope) (identity template : String) :
    (fill scope identity template).2 =
      (Interpolation.interpolate template scope).unresolved.map fun path =>
        ⟨identity, .unresolvedBinding, s!"no binding for `{path}`"⟩ := by
  unfold fill
  cases h : Interpolation.hasTokens template with
  | true => rfl
  | false => rw [Interpolation.unresolved_of_not_hasTokens h]; rfl

/-- The faults of texts that are filled in one after the other. -/
def fillFaults (scope : Scope) (identity : String) (texts : List String) : List Diagnostic :=
  texts.flatMap fun t => (fill scope identity t).2

theorem of_mem_fillFaults {scope : Scope} {identity : String} {texts : List String} {r : Diagnostic}
    (h : r ∈ fillFaults scope identity texts) :
    r.identity = identity ∧ r.kind = .unresolvedBinding := by
  obtain ⟨t, _, hr⟩ := List.mem_flatMap.1 h
  rw [fill_faults] at hr
  obtain ⟨path, _, rfl⟩ := List.mem_map.1 hr
  exact ⟨rfl, rfl⟩

theorem structural_fillFaults (scope : Scope) (identity : String) (texts : List String) :
    (fillFaults scope identity texts).filter Diagnostic.structural = [] := by
  rw [List.filter_eq_nil_iff]
  intro r hr
  rw [Diagnostic.structural, (of_mem_fillFaults hr).2]
  decide

theorem countP_fillFaults (scope : Scope) (identity : String) (texts : List String) :
    (fillFaults scope identity texts).countP (·.kind == .unresolvedBinding) =
      (texts.flatMap (Interpolation.unresolvedIn scope)).length := by
  rw [List.countP_eq_length.2 fun r hr => beq_iff_eq.2 (of_mem_fillFaults hr).2, fillFaults,
    List.length_flatMap, List.length_flatMap]
  simp only [fill_faults, List.length_map, Interpolation.length_unresolved]

theorem package_faults (scope : Scope) (identity : String) (a : Action) :
    (package scope identity a).2 = fillFaults scope identity a.texts := by
  rw [fillFaults, Action.texts, List.flatMap_cons, List.flatMap_map]
  rfl

/-- The value is there, and an array. -/
def isArray : Option Json → Bool
  | some (.arr _) => true
  | _ => false

theorem items_faults (scope : Scope) (identity source : String) :
    (items scope identity source).2.map (fun r => (r.identity, r.kind)) =
      if isArray (scope.lookup source) then [] else [(identity, .missingDataSource)] := by
  rw [items]
  cases scope.lookup source with
  | none => rfl
  | some found => cases found <;> rfl

theorem items_of_not_isArray {scope : Scope} {source : String}
    (h : isArray (scope.lookup source) = false) (identity : String) :
    (items scope identity source).1 = [] := by
  rw [items]
  split
  · rename_i found hf
    rw [hf] at h
    cases h
  · rfl
  · rfl

end Evaluate

namespace Visit

variable {limit : Nat} {v : Visit}

/-! ### Places that are seen -/

/-- Not hidden: the depth limit is looked at before the conditions. -/
def shown (limit : Nat) (v : Visit) : Bool := decide (limit ≤ v.site.depth) || v.admitted

/-- The places whose nodes are visible. -/
def seen (limit : Nat) (v : Visit) : List Visit := (v.places limit).filter (shown limit)

theorem seen_of_tooDeep (h : limit ≤ v.site.depth) (he : v.entered limit = false) :
    v.seen limit = [v] := by
  rw [seen, places_eq, he]
  exact List.filter_cons_of_pos (by simp [shown, h])

theorem seen_of_not_admitted (hd : v.site.depth < limit) (ha : v.admitted = false)
    (he : v.entered limit = false) : v.seen limit = [] := by
  rw [seen, places_eq, he]
  exact List.filter_cons_of_neg (by simp [shown, ha, hd])

theorem seen_of_entered (ha : v.admitted = true) (he : v.entered limit = true) :
    v.seen limit = v :: v.inner.flatMap (seen limit) := by
  rw [seen, places_eq, if_pos he, List.filter_cons_of_pos (by simp [shown, ha]),
    List.filter_flatMap]
  rfl

theorem drawn_of_tooDeep (h : limit ≤ v.site.depth) :
    v.drawn limit = .mk { Evaluate.blank v.identity .truncated with
      sourceId := v.node.id?, sourceType := v.node.typeName? } [] := by
  rw [drawn, evaluated_of_tooDeep h]
  rfl

/-- The visible nodes are those drawn at the places that are seen, in the same order. -/
theorem visibleNodes_drawn (limit : Nat) (v : Visit) :
    (v.drawn limit).visibleNodes = (v.seen limit).map (drawn limit) := by
  induction v using induction_inner with
  | step v ih =>
    rcases cases_entered limit v with ⟨hd, he⟩ | ⟨hd, ha, he⟩ | ⟨hd, ha, he⟩
    · rw [seen_of_tooDeep hd he, List.map_singleton, drawn_of_tooDeep hd]
      rfl
    · rw [seen_of_not_admitted hd ha he, drawn, evaluated_of_not_admitted hd ha]
      rfl
    · have hinner : RenderNode.visibleNodesOf (v.inner.map (drawn limit)) =
          (v.inner.flatMap (seen limit)).map (drawn limit) := by
        rw [RenderNode.visibleNodesOf_eq, List.flatMap_map, List.map_flatMap]
        exact List.flatMap_congr ih
      rw [seen_of_entered ha he, List.map_cons, ← hinner, drawn_of_entered he,
        RenderNode.visibleNodes, if_pos v.front_visible]

/-! ### The faults of a place -/

/-- The faults met at a node that is seen, none of them below it. -/
def own (limit : Nat) (v : Visit) : List Diagnostic :=
  if limit ≤ v.site.depth then
    [⟨v.identity, .depthExceeded, s!"nesting exceeds {limit} levels"⟩]
  else v.opening ++ v.closing

theorem own_of_lt (h : v.site.depth < limit) : v.own limit = v.opening ++ v.closing :=
  if_neg (Nat.not_le.2 h)

theorem faults_of_tooDeep (h : limit ≤ v.site.depth) : v.faults limit = v.own limit := by
  rw [faults, evaluated_of_tooDeep h, own, if_pos h]
  rfl

theorem faults_of_not_admitted (hd : v.site.depth < limit) (ha : v.admitted = false) :
    v.faults limit = [] := by
  rw [faults, evaluated_of_not_admitted hd ha]

/-- Every fault is one of a place that is seen, as often as it is met. -/
theorem faults_perm (limit : Nat) (v : Visit) :
    (v.faults limit).Perm ((v.seen limit).flatMap (own limit)) := by
  induction v using induction_inner with
  | step v ih =>
    rcases cases_entered limit v with ⟨hd, he⟩ | ⟨hd, ha, he⟩ | ⟨hd, ha, he⟩
    · rw [seen_of_tooDeep hd he, List.flatMap_singleton, faults_of_tooDeep hd]
    · rw [seen_of_not_admitted hd ha he, faults_of_not_admitted hd ha]
      rfl
    · have hinner : (v.inner.flatMap (faults limit)).Perm
          ((v.inner.flatMap (seen limit)).flatMap (own limit)) := by
        rw [List.flatMap_assoc]
        exact List.Perm.flatMap_left _ ih
      rw [seen_of_entered ha he, faults_of_entered he, List.flatMap_cons, own_of_lt hd,
        List.append_assoc, List.append_assoc]
      exact (List.perm_append_comm.trans (hinner.append_left v.closing)).append_left v.opening

/-! ### What a node adds -/

/-- The fault of structure of an entered node. -/
def flaw (v : Visit) : List Diagnostic :=
  match v.node with
  | .unsupported _ _ _ reason _ => [⟨v.identity, .unsupportedType, reason.message⟩]
  | .list _ source _ =>
    if v.site.expanding.contains source then
      [⟨v.identity, .listCycle, s!"`{source}` is already being expanded by an ancestor"⟩]
    else (Evaluate.items v.site.scope v.identity source).2
  | _ => []

theorem opening_eq (v : Visit) :
    v.opening = v.flaw ++ Evaluate.fillFaults v.site.scope v.identity v.node.ownTexts := by
  obtain ⟨n, site, identity⟩ := v
  cases n with
  | image c source => cases source <;> exact (List.append_nil _).symm
  | text | button | list | unsupported => exact (List.append_nil _).symm
  | container | spacer | divider => rfl

theorem closing_eq (v : Visit) :
    v.closing = Evaluate.fillFaults v.site.scope v.identity
      (if v.cyclic then [] else v.node.actionTexts) := by
  rw [closing, Node.actionTexts]
  split
  · rfl
  · cases v.node.common?.bind (·.action) with
    | none => rfl
    | some a => exact Evaluate.package_faults v.site.scope v.identity a

/-- A list whose data source is an array where it stands. -/
def bound (v : Visit) : Bool :=
  match v.node with
  | .list _ source _ => Evaluate.isArray (v.site.scope.lookup source)
  | _ => false

/-- What is wrong with a node, to be seen from the kind it is drawn as. -/
def spot? (limit : Nat) (v : Visit) : Option DiagnosticKind :=
  match (v.drawn limit).face.kind with
  | .unsupported => some .unsupportedType
  | .truncated =>
    if limit ≤ v.site.depth then some .depthExceeded
    else if v.cyclic then some .listCycle else none
  | .list => if v.bound then none else some .missingDataSource
  | _ => none

/-- Drawn as what it is. -/
def whole (limit : Nat) (v : Visit) : Bool :=
  match (v.drawn limit).face.kind with
  | .unsupported | .truncated => false
  | _ => true

/-- The tokens of a node that have no binding where it stands; of a degraded node none. -/
def loose (limit : Nat) (v : Visit) : List Interpolation.Piece :=
  if v.whole limit then
    (v.node.ownTexts ++ v.node.actionTexts).flatMap (Interpolation.unresolvedIn v.site.scope)
  else []

theorem kind_of_entered (h : v.entered limit = true) :
    (v.drawn limit).face.kind = if v.cyclic then .truncated else Evaluate.kindOf v.node := by
  rw [drawn_of_entered h]
  obtain ⟨n, site, identity⟩ := v
  cases n with
  | list c source item =>
    by_cases hc : site.expanding.contains source = true <;>
      simp only [front, cyclic, hc, RenderNode.face] <;> rfl
  | _ => rfl

theorem shown_cases (h : v.shown limit = true) :
    limit ≤ v.site.depth ∨ (v.site.depth < limit ∧ v.entered limit = true) := by
  rcases cases_entered limit v with ⟨hd, _⟩ | ⟨hd, ha, _⟩ | ⟨hd, _, he⟩
  · exact .inl hd
  · simp [shown, ha, Nat.not_le.2 hd] at h
  · exact .inr ⟨hd, he⟩

theorem spot?_of_tooDeep (h : limit ≤ v.site.depth) : v.spot? limit = some .depthExceeded := by
  rw [spot?, drawn_of_tooDeep h]
  exact if_pos h

/-- An entered node has the fault of structure that its kind shows, and no other. -/
theorem flaw_places (hd : v.site.depth < limit) (he : v.entered limit = true) :
    v.flaw.map (fun r => (r.identity, r.kind)) =
      ((v.spot? limit).map (v.identity, ·)).toList := by
  rw [spot?, kind_of_entered he]
  obtain ⟨n, site, identity⟩ := v
  cases n with
  | list c source item =>
    by_cases hc : site.expanding.contains source = true
    · have hcyclic : cyclic ⟨.list c source item, site, identity⟩ = true := hc
      simp only [flaw, hcyclic, if_pos hc, if_true, if_neg (Nat.not_le.2 hd)]
      rfl
    · have hcyclic : cyclic ⟨.list c source item, site, identity⟩ = false := eq_false_of_ne_true hc
      have hfaults : (Evaluate.items site.scope identity source).2.map
          (fun r => (r.identity, r.kind)) = if bound ⟨.list c source item, site, identity⟩ then []
            else [(identity, .missingDataSource)] :=
        Evaluate.items_faults site.scope identity source
      simp only [flaw, hcyclic, if_neg hc, hfaults]
      cases bound ⟨.list c source item, site, identity⟩ <;> rfl
  | container c kind nodes => cases kind <;> rfl
  | _ => rfl

theorem spot?_ne_unresolvedBinding {k : DiagnosticKind} (h : v.spot? limit = some k) :
    k ≠ .unresolvedBinding := by
  rintro rfl
  unfold spot? at h
  split at h
  · cases h
  · split at h
    · cases h
    · split at h <;> cases h
  · split at h <;> cases h
  · cases h

theorem of_mem_flaw (hd : v.site.depth < limit) (he : v.entered limit = true) {r : Diagnostic}
    (h : r ∈ v.flaw) : r.identity = v.identity ∧ r.structural = true := by
  have hplace := List.mem_map_of_mem (f := fun r : Diagnostic => (r.identity, r.kind)) h
  rw [flaw_places hd he, Option.mem_toList, Option.map_eq_some_iff] at hplace
  obtain ⟨k, hk, heq⟩ := hplace
  obtain ⟨hi, rfl⟩ := Prod.mk.inj heq
  exact ⟨hi.symm, bne_iff_ne.2 (spot?_ne_unresolvedBinding hk)⟩

theorem of_mem_own (h : v.shown limit = true) {r : Diagnostic} (hr : r ∈ v.own limit) :
    r.identity = v.identity := by
  rcases shown_cases h with hd | ⟨hd, he⟩
  · rw [own, if_pos hd, List.mem_singleton] at hr
    rw [hr]
  · rw [own_of_lt hd, opening_eq, closing_eq, List.mem_append, List.mem_append] at hr
    rcases hr with (hr | hr) | hr
    · exact (of_mem_flaw hd he hr).1
    · exact (Evaluate.of_mem_fillFaults hr).1
    · exact (Evaluate.of_mem_fillFaults hr).1

/-- A place adds a fault of structure exactly if its node is a degraded one. -/
theorem own_structural (h : v.shown limit = true) :
    ((v.own limit).filter Diagnostic.structural).map (fun r => (r.identity, r.kind)) =
      ((v.spot? limit).map (v.identity, ·)).toList := by
  rcases shown_cases h with hd | ⟨hd, he⟩
  · rw [own, if_pos hd, spot?_of_tooDeep hd]
    rfl
  · have hflaw : v.flaw.filter Diagnostic.structural = v.flaw :=
      List.filter_eq_self.2 fun r hr => (of_mem_flaw hd he hr).2
    rw [own_of_lt hd, opening_eq, closing_eq, List.filter_append, List.filter_append, hflaw,
      Evaluate.structural_fillFaults, Evaluate.structural_fillFaults, List.append_nil,
      List.append_nil, flaw_places hd he]

/-- The nodes drawn as something else than what they are have no texts of their own. -/
theorem texts_of_entered (he : v.entered limit = true) :
    v.node.ownTexts ++ (if v.cyclic then [] else v.node.actionTexts) =
      if v.whole limit then v.node.ownTexts ++ v.node.actionTexts else [] := by
  rw [whole, kind_of_entered he]
  obtain ⟨n, site, identity⟩ := v
  cases n with
  | list c source item =>
    cases hc : cyclic ⟨.list c source item, site, identity⟩ <;> rfl
  | container c kind nodes => cases kind <;> rfl
  | _ => rfl

/-- A place adds a fault for each token that is not resolved, unless its node is degraded. -/
theorem countP_own (h : v.shown limit = true) :
    (v.own limit).countP (·.kind == .unresolvedBinding) = (v.loose limit).length := by
  rcases shown_cases h with hd | ⟨hd, he⟩
  · rw [own, if_pos hd, loose, whole, drawn_of_tooDeep hd]
    rfl
  · have hflaw : v.flaw.countP (·.kind == .unresolvedBinding) = 0 :=
      List.countP_eq_zero.2 fun r hr => by
        simpa [Diagnostic.structural] using (of_mem_flaw hd he hr).2
    rw [own_of_lt hd, opening_eq, closing_eq, List.countP_append, List.countP_append, hflaw,
      Nat.zero_add, Evaluate.countP_fillFaults, Evaluate.countP_fillFaults, ← List.length_append,
      ← List.flatMap_append, texts_of_entered he, loose]
    split <;> rfl

/-- Actions come late, but they add no fault of structure. -/
theorem structural_faults (limit : Nat) (v : Visit) :
    (v.faults limit).filter Diagnostic.structural =
      (v.seen limit).flatMap fun w => (w.own limit).filter Diagnostic.structural := by
  induction v using induction_inner with
  | step v ih =>
    rcases cases_entered limit v with ⟨hd, he⟩ | ⟨hd, ha, he⟩ | ⟨hd, ha, he⟩
    · rw [seen_of_tooDeep hd he, List.flatMap_singleton, faults_of_tooDeep hd]
    · rw [seen_of_not_admitted hd ha he, faults_of_not_admitted hd ha]
      rfl
    · have hclosing : v.closing.filter Diagnostic.structural = [] := by
        rw [closing_eq, Evaluate.structural_fillFaults]
      have hinner : (v.inner.flatMap (faults limit)).filter Diagnostic.structural =
          (v.inner.flatMap (seen limit)).flatMap
            fun w => (w.own limit).filter Diagnostic.structural := by
        rw [List.filter_flatMap, List.flatMap_assoc]
        exact List.flatMap_congr ih
      rw [seen_of_entered ha he, faults_of_entered he, List.flatMap_cons, own_of_lt hd,
        List.filter_append, List.filter_append, List.filter_append, hclosing, hinner,
        List.append_nil, List.append_nil]

/-! ### Degraded nodes -/

/-- A degraded node has nothing inside it. -/
theorem children_of_spot? (h : v.shown limit = true) (hs : (v.spot? limit).isSome = true) :
    (v.drawn limit).children = [] := by
  rcases shown_cases h with hd | ⟨hd, he⟩
  · rw [drawn_of_tooDeep hd]
    rfl
  · rw [spot?, kind_of_entered he] at hs
    rw [drawn_of_entered he]
    obtain ⟨n, site, identity⟩ := v
    cases n with
    | list c source item =>
      by_cases hc : site.expanding.contains source = true
      · simp only [inner, if_pos hc]
        rfl
      · have hcyclic : cyclic ⟨.list c source item, site, identity⟩ = false :=
          eq_false_of_ne_true hc
        have hbound : bound ⟨.list c source item, site, identity⟩ = false := by
          cases hb : bound ⟨.list c source item, site, identity⟩ with
          | false => rfl
          | true =>
            rw [hcyclic, hb] at hs
            cases hs
        simp only [inner, if_neg hc, items, Evaluate.items_of_not_isArray hbound]
        rfl
    | container c kind nodes => cases kind <;> cases hs
    | _ => rfl

theorem spot?_of_truncated (h : v.shown limit = true)
    (ht : (v.drawn limit).face.kind = .truncated) : (v.spot? limit).isSome = true := by
  rcases shown_cases h with hd | ⟨hd, he⟩
  · rw [spot?_of_tooDeep hd]
    rfl
  · have hcyclic : v.cyclic = true := by
      cases hc : v.cyclic with
      | true => rfl
      | false =>
        rw [kind_of_entered he, hc] at ht
        cases hn : v.node with
        | container c kind nodes => rw [hn] at ht; cases kind <;> cases ht
        | _ => rw [hn] at ht; cases ht
    rw [spot?, ht]
    simp only [if_neg (Nat.not_le.2 hd), hcyclic]
    rfl

end Visit

/-! ### Whole screens -/

namespace Document

variable (limit : Nat) (d : Document) (env : Environment)

/-- The places of a screen whose nodes are visible. -/
def seen : List Visit := (d.top env).flatMap (Visit.seen limit)

theorem visibleNodes_render :
    RenderNode.visibleNodesOf (d.render limit env).nodes =
      (d.seen limit env).map (Visit.drawn limit) := by
  rw [render_nodes, RenderNode.visibleNodesOf_eq, List.flatMap_map, seen, List.map_flatMap]
  exact List.flatMap_congr fun v _ => v.visibleNodes_drawn limit

theorem diagnostics_perm :
    (d.render limit env).diagnostics.Perm ((d.seen limit env).flatMap (Visit.own limit)) := by
  rw [render_diagnostics, seen, List.flatMap_assoc]
  exact List.Perm.flatMap_left _ fun v _ => v.faults_perm limit

theorem structural_diagnostics :
    (d.render limit env).diagnostics.filter Diagnostic.structural =
      (d.seen limit env).flatMap fun v => (v.own limit).filter Diagnostic.structural := by
  rw [render_diagnostics, seen, List.filter_flatMap, List.flatMap_assoc]
  exact List.flatMap_congr fun v _ => v.structural_faults limit

theorem shown_of_mem_seen {v : Visit} (h : v ∈ d.seen limit env) : v.shown limit = true := by
  obtain ⟨w, _, hv⟩ := List.mem_flatMap.1 h
  exact (List.mem_filter.1 hv).2

/-- What the diagnostics of a tree say of the places whose nodes are visible. -/
structure Reports (limit : Nat) (places : List Visit) (tree : RenderTree) : Prop where
  /-- The places are those of the visible nodes, in the order of the nodes. -/
  nodes : RenderNode.visibleNodesOf tree.nodes = places.map (Visit.drawn limit)
  /-- The faults of structure name the degraded nodes, in the order of the nodes. -/
  spots : (tree.diagnostics.filter Diagnostic.structural).map (fun r => (r.identity, r.kind)) =
    places.filterMap fun v => (v.spot? limit).map ((v.drawn limit).face.identity, ·)
  /-- Nothing is truncated but for its depth, or for a list around it. -/
  truncated : ∀ v ∈ places, (v.drawn limit).face.kind = .truncated → (v.spot? limit).isSome = true
  childless : ∀ v ∈ places, (v.spot? limit).isSome = true → (v.drawn limit).children = []
  named : ∀ r ∈ tree.diagnostics, ∃ f ∈ tree.visibleFaces, f.identity = r.identity
  /-- The other faults are the tokens without a binding in the nodes that are not degraded. -/
  tokens : tree.diagnostics.countP (·.kind == .unresolvedBinding) =
    (places.flatMap (Visit.loose limit)).length

theorem render_reports : Reports limit (d.seen limit env) (d.render limit env) where
  nodes := visibleNodes_render limit d env
  spots := by
    rw [structural_diagnostics, List.map_flatMap, List.filterMap_eq_flatMap_toList]
    refine List.flatMap_congr fun v hv => ?_
    rw [Visit.own_structural (shown_of_mem_seen limit d env hv), Visit.drawn_identity]
  truncated v hv := Visit.spot?_of_truncated (shown_of_mem_seen limit d env hv)
  childless v hv := Visit.children_of_spot? (shown_of_mem_seen limit d env hv)
  named r hr := by
    obtain ⟨v, hv, hown⟩ := List.mem_flatMap.1 ((diagnostics_perm limit d env).mem_iff.1 hr)
    refine ⟨(v.drawn limit).face, ?_, ?_⟩
    · rw [RenderTree.visibleFaces, ← RenderNode.faces_visibleNodesOf, visibleNodes_render]
      exact List.mem_map_of_mem (List.mem_map_of_mem hv)
    · rw [Visit.drawn_identity, Visit.of_mem_own (shown_of_mem_seen limit d env hv) hown]
  tokens := by
    rw [(diagnostics_perm limit d env).countP_eq, List.countP_flatMap, List.length_flatMap]
    refine congrArg List.sum (List.map_congr_left fun v hv => ?_)
    exact Visit.countP_own (shown_of_mem_seen limit d env hv)

/-- A list with an action, inside it a list of the same rows and a box that is too deep. -/
def troubled : Document :=
  .ofComponents "troubled" "" [
    .list ⟨some "rows", none, some (.ofTarget "open" "\x7b\x7bgone\x7d\x7d"), []⟩ "rows"
      (.ofContainer .vstack "row" [.ofText "name" "\x7b\x7bitem.name\x7d\x7d",
        .ofList "again" "rows" (.ofText "leaf" ""),
        .ofContainer .card "box" [.ofText "deep" "\x7b\x7bgone\x7d\x7d"]]),
    .ofList "lost" "gone" (.ofText "leaf" ""),
    .unsupported (some "odd") (some "gauge") [] (.unknownType "gauge") .null]

/-- One row, which has no name. -/
def namelessRow : Environment := .ofJson (.obj [("rows", .arr [.obj []])])

/-- Two tokens are unresolved; that in the text that is too deep does not count. -/
theorem troubled_reported :
    Reports 3 (troubled.seen 3 namelessRow) (troubled.render 3 namelessRow) ∧
      (troubled.seen 3 namelessRow).flatMap (Visit.loose 3) =
        [.token "\x7b\x7bgone\x7d\x7d".toList "gone".toList,
          .token "\x7b\x7bitem.name\x7d\x7d".toList "item.name".toList] ∧
      (troubled.render 3 namelessRow).diagnostics.map (fun r => (r.identity, r.kind)) =
        [("rows#0/name", .unresolvedBinding), ("rows#0/again", .listCycle),
          ("rows#0/deep", .depthExceeded), ("rows", .unresolvedBinding),
          ("lost", .missingDataSource), ("odd", .unsupportedType)] :=
  ⟨render_reports 3 troubled namelessRow, by decide +kernel, by decide +kernel⟩

end Document

end Screens
