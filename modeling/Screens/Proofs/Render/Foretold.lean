import Screens.CommandLine.Run
import Screens.Proofs.Render.Report
import Screens.Proofs.Text.Bytes

/-! What is not drawn is foretold by a look at the template.

Evaluation skips, repeats and cuts off parts of a template, but a node drawn as unsupported
is always that of an unsupported template node (`Visit.of_drawn_unsupported`), and one that
is seen is reported with the reason of that node (`Visit.own_unsupported`).

`Document.unsupported_foretold`: so every unsupported node of a tree, and every report of
one, was listed by the scan of the template; and of a template that passes the check no
environment and no depth limit makes one. -/
namespace Screens

theorem Evaluate.unsupported_of_kindOf {n : Node} (h : kindOf n = .unsupported) :
    ∃ id typeName conditions reason raw, n = .unsupported id typeName conditions reason raw := by
  cases n with
  | unsupported id typeName conditions reason raw =>
    exact ⟨id, typeName, conditions, reason, raw, rfl⟩
  | container c kind inner => cases kind <;> cases h
  | text | button | image | list | spacer | divider => cases h

/-- The face bears the id and the type of the entry. -/
def Document.Degraded.Names (e : Document.Degraded) (f : Face) : Prop :=
  f.sourceId = e.id ∧ f.sourceType = e.typeName

/-- No node of the tree, hidden or not, is an unsupported one, and none is reported. -/
def RenderTree.Supported (tree : RenderTree) : Prop :=
  (∀ f ∈ RenderNode.facesOf tree.nodes, f.kind ≠ .unsupported) ∧
    ∀ r ∈ tree.diagnostics, r.kind ≠ .unsupportedType

namespace Visit

variable {limit : Nat} {v : Visit}

/-- What is drawn as unsupported, hidden or not, is an unsupported node of the template. -/
theorem of_drawn_unsupported (h : (v.drawn limit).face.kind = .unsupported) :
    ∃ e, Document.degraded? v.node = some e ∧ e.Names (v.drawn limit).face := by
  obtain ⟨n, site, identity⟩ := v
  rcases cases_entered limit ⟨n, site, identity⟩ with ⟨hd, _⟩ | ⟨hd, ha, _⟩ | ⟨_, _, he⟩
  · rw [drawn_of_tooDeep hd] at h
    cases h
  · have hdrawn : drawn limit ⟨n, site, identity⟩ = Evaluate.hidden n identity :=
      congrArg Prod.fst (evaluated_of_not_admitted hd ha)
    rw [hdrawn] at h ⊢
    obtain ⟨id, typeName, conditions, reason, raw, rfl⟩ := Evaluate.unsupported_of_kindOf h
    exact ⟨⟨id, typeName, reason⟩, rfl, rfl, rfl⟩
  · rw [kind_of_entered he] at h
    rw [drawn_of_entered he]
    split at h
    · cases h
    · obtain ⟨id, typeName, conditions, reason, raw, rfl⟩ := Evaluate.unsupported_of_kindOf h
      exact ⟨⟨id, typeName, reason⟩, rfl, rfl, rfl⟩

theorem spot?_eq_unsupportedType :
    v.spot? limit = some .unsupportedType ↔ (v.drawn limit).face.kind = .unsupported := by
  unfold spot?
  split
  · simp [*]
  · rename_i hk
    simp only [hk, reduceCtorEq, iff_false]
    split
    · simp
    · split <;> simp
  · rename_i hk
    simp only [hk, reduceCtorEq, iff_false]
    split <;> simp
  · rename_i hu _ _
    simpa using hu

/-- A place that is seen reports an unsupported node exactly if one is drawn there, and
then once, with the reason found in the template. -/
theorem own_unsupported (h : v.shown limit = true) :
    (v.own limit).filter (·.kind == .unsupportedType) =
      if (v.drawn limit).face.kind = .unsupported then
        (Document.degraded? v.node).toList.map fun e =>
          ⟨v.identity, .unsupportedType, e.reason.message⟩
      else [] := by
  split
  · rename_i hk
    rcases shown_cases h with hd | ⟨hd, he⟩
    · rw [drawn_of_tooDeep hd] at hk
      cases hk
    · obtain ⟨e, hdeg, _⟩ := of_drawn_unsupported hk
      obtain ⟨n, site, identity⟩ := v
      rw [own_of_lt hd]
      cases n with
      | unsupported => rfl
      | _ => cases hdeg
  · rename_i hk
    -- Any report of this kind would be one of structure, and the place has none such.
    refine List.filter_eq_nil_iff.2 fun r hr hkind => hk (spot?_eq_unsupportedType.1 ?_)
    have hrk : r.kind = .unsupportedType := by simpa using hkind
    have hstruct : r.structural = true := by simp [Diagnostic.structural, hrk]
    have hmem := List.mem_map_of_mem (f := fun r : Diagnostic => (r.identity, r.kind))
      (List.mem_filter.2 ⟨hr, hstruct⟩)
    rw [own_structural h, Option.mem_toList, Option.map_eq_some_iff] at hmem
    obtain ⟨k, hspot, heq⟩ := hmem
    rw [hspot, (Prod.mk.inj heq).2, hrk]

theorem node_mem_walk {w : Visit} (h : w ∈ v.places limit) : w.node ∈ v.node.walk := by
  induction v using induction_inner with
  | step v ih =>
    rw [places_eq, List.mem_cons] at h
    rcases h with rfl | h
    · exact w.node.mem_walk_self
    · split at h
      · obtain ⟨x, hx, hw⟩ := List.mem_flatMap.1 h
        exact Node.walk_subset_of_mem_inside (node_mem_inside hx) (ih x hx hw)
      · cases h

end Visit

namespace Document

variable (limit : Nat) (d : Document) (env : Environment)

theorem mem_degradedNodes {d : Document} {n : Node} (hn : n ∈ d.nodes) {e : Degraded}
    (he : degraded? n = some e) : e ∈ d.degradedNodes :=
  List.mem_filterMap.2 ⟨n, hn, he⟩

/-- The places that are seen are those of nodes of the template. -/
theorem node_mem_of_mem_seen {v : Visit} (h : v ∈ d.seen limit env) : v.node ∈ d.nodes := by
  obtain ⟨w, hw, hv⟩ := List.mem_flatMap.1 h
  exact Node.mem_walkAll.2
    ⟨w.node, Visit.node_mem_of_mem_children hw, Visit.node_mem_walk (List.mem_filter.1 hv).1⟩

/-- An unsupported node of a tree, hidden or not, was listed. -/
theorem face_foretold {f : Face} (hf : f ∈ RenderNode.facesOf (d.render limit env).nodes)
    (hk : f.kind = .unsupported) : ∃ e ∈ d.degradedNodes, e.Names f := by
  obtain ⟨n, hn, _, _, hfn⟩ := Evaluate.mem_facesOf_children hf
  obtain ⟨m, hm, site, identity, rfl⟩ := Evaluate.exists_node_of_mem_faces n _ _ hfn
  have hdrawn : (Visit.drawn limit ⟨m, site, identity⟩).face.kind = .unsupported := hk
  obtain ⟨e, he, hnames⟩ := Visit.of_drawn_unsupported hdrawn
  exact ⟨e, mem_degradedNodes (Node.mem_walkAll.2 ⟨n, hn, hm⟩) he, hnames⟩

theorem visibleFaces_seen :
    (d.render limit env).visibleFaces = (d.seen limit env).map fun v => (v.drawn limit).face := by
  rw [RenderTree.visibleFaces, ← RenderNode.faces_visibleNodesOf, visibleNodes_render,
    List.map_map]
  rfl

/-- The reports of unsupported nodes are those of the places that are seen. -/
theorem unsupportedType_diagnostics :
    (d.render limit env).diagnostics.filter (·.kind == .unsupportedType) =
      (d.seen limit env).flatMap fun v => (v.own limit).filter (·.kind == .unsupportedType) := by
  have hstruct (rs : List Diagnostic) : rs.filter (·.kind == .unsupportedType) =
      (rs.filter Diagnostic.structural).filter (·.kind == .unsupportedType) := by
    rw [List.filter_filter]
    refine List.filter_congr fun r _ => ?_
    cases hk : r.kind <;> simp [Diagnostic.structural, hk]
  rw [hstruct, structural_diagnostics, List.filter_flatMap]
  exact List.flatMap_congr fun v _ => (hstruct (v.own limit)).symm

/-- The entry is one of the scan's; the face bears its id and type, and the report its
reason. -/
def Degraded.Explains (e : Degraded) (f : Face) (r : Diagnostic) : Prop :=
  e.Names f ∧ r.detail = e.reason.message

/-- At each place one more unsupported node is seen and reported, or none is. -/
theorem reports_along {places : List Visit}
    (h : ∀ v ∈ places, v.shown limit = true ∧ v.node ∈ d.nodes) :
    List.Forall₂ (fun f r => r.identity = f.identity ∧ ∃ e ∈ d.degradedNodes, e.Explains f r)
      ((places.map fun v => (v.drawn limit).face).filter (·.kind == .unsupported))
      (places.flatMap fun v => (v.own limit).filter (·.kind == .unsupportedType)) := by
  induction places with
  | nil => exact .nil
  | cons v rest ih =>
    have hrest := ih fun w hw => h w (List.mem_cons_of_mem v hw)
    obtain ⟨hshown, hnode⟩ := h v List.mem_cons_self
    rw [List.map_cons, List.flatMap_cons, Visit.own_unsupported hshown]
    by_cases hk : (v.drawn limit).face.kind = .unsupported
    · obtain ⟨e, he, hnames⟩ := Visit.of_drawn_unsupported hk
      rw [if_pos hk, List.filter_cons, if_pos (beq_iff_eq.2 hk), he]
      exact .cons ⟨(v.drawn_identity limit).symm, e, mem_degradedNodes hnode he, hnames, rfl⟩ hrest
    · rwa [if_neg hk, List.filter_cons_of_neg (by simpa using hk)]

/-- The unsupported nodes that are seen and the reports of unsupported nodes go together,
one by one and in order; each pair is explained by an entry of the scan. -/
theorem reports_foretold :
    List.Forall₂ (fun f r => r.identity = f.identity ∧ ∃ e ∈ d.degradedNodes, e.Explains f r)
      ((d.render limit env).visibleFaces.filter (·.kind == .unsupported))
      ((d.render limit env).diagnostics.filter (·.kind == .unsupportedType)) := by
  rw [visibleFaces_seen, unsupportedType_diagnostics]
  exact reports_along limit d fun v hv =>
    ⟨shown_of_mem_seen limit d env hv, node_mem_of_mem_seen limit d env hv⟩

theorem supported_of_no_degradedNodes {d : Document} (h : d.degradedNodes = []) :
    (d.render limit env).Supported := by
  have hfaces : ∀ f ∈ RenderNode.facesOf (d.render limit env).nodes, f.kind ≠ .unsupported := by
    intro f hf hk
    obtain ⟨e, he, _⟩ := face_foretold limit d env hf hk
    rw [h] at he
    cases he
  refine ⟨hfaces, fun r hr hk => ?_⟩
  have hnone : (d.render limit env).visibleFaces.filter (·.kind == .unsupported) = [] := by
    refine List.filter_eq_nil_iff.2 fun f hf hkind => ?_
    exact hfaces f (RenderNode.visibleFacesOf_subset _ hf) (beq_iff_eq.1 hkind)
  have hpairs := reports_foretold limit d env
  rw [hnone, List.forall₂_nil_left_iff, List.filter_eq_nil_iff] at hpairs
  exact hpairs r hr (beq_iff_eq.2 hk)

end Document

namespace CommandLine

theorem check_done_iff {disk : Disk} {file : String} {bytes : Json.Bytes} {d : Document}
    (hfile : disk.read file = .ok bytes) (hread : Document.read bytes = .ok d) :
    (∃ output, check disk file = .done output) ↔ d.degradedNodes = [] := by
  unfold check
  rw [hfile]
  dsimp only
  rw [hread]
  dsimp only
  cases d.degradedNodes with
  | nil => simp
  | cons e rest => simp

end CommandLine

/-- Whatever the environment and the depth limit, every unsupported node of a tree, hidden
or not, was listed by the scan of its template; those that are seen are reported one by one
in order, each with the reason listed. The check accepts a template exactly if nothing is
listed, and of such a template every tree is supported. -/
theorem Document.unsupported_foretold (d : Document) :
    (∀ limit env,
      (∀ f ∈ RenderNode.facesOf (d.render limit env).nodes, f.kind = .unsupported →
        ∃ e ∈ d.degradedNodes, e.Names f) ∧
      List.Forall₂ (fun f r => r.identity = f.identity ∧ ∃ e ∈ d.degradedNodes, e.Explains f r)
        ((d.render limit env).visibleFaces.filter (·.kind == .unsupported))
        ((d.render limit env).diagnostics.filter (·.kind == .unsupportedType))) ∧
    (∀ disk file bytes, Disk.read disk file = .ok bytes → Document.read bytes = .ok d →
      ((∃ output, CommandLine.check disk file = .done output) ↔ d.degradedNodes = [])) ∧
    (d.degradedNodes = [] → ∀ limit env, (d.render limit env).Supported) :=
  ⟨fun limit env => ⟨fun _ hf hk => face_foretold limit d env hf hk, reports_foretold limit d env⟩,
    fun _ _ _ hfile hread => CommandLine.check_done_iff hfile hread,
    fun h limit env => supported_of_no_degradedNodes limit env h⟩

namespace Document

/-- A list of gauges, which are not supported; each is seen if its row says so. -/
def gauges : Document :=
  .ofComponents "gauges" "" [.ofList "rows" "rows"
    (.unsupported (some "dial") (some "gauge") [⟨"item.on", .present, ""⟩] (.unknownType "gauge")
      .null)]

/-- Two rows, the first of which says so. -/
def gaugeRows : Environment :=
  .ofJson (.obj [("rows", .arr [.obj [("on", .bool true)], .obj []])])

def tidy : Document := .ofComponents "tidy" "" [.ofText "hello" "Hello"]

/-- A disk with the second of them. -/
def tidyDisk : Disk := .ofEntries [("tidy.json", .ok (.file (Utf8.bytes tidy.encode.chars)))]

/-- Both gauges are the one that was listed, the hidden one too; the other screen passes. -/
theorem gauges_foretold :
    ((RenderNode.facesOf (gauges.render 8 gaugeRows).nodes).filter (·.kind == .unsupported)).map
      (fun f => (f.identity, f.visible)) = [("rows#0", true), ("rows#1", false)] ∧
    (∀ f ∈ RenderNode.facesOf (gauges.render 8 gaugeRows).nodes, f.kind = .unsupported →
      f.sourceId = some "dial" ∧ f.sourceType = some "gauge") ∧
    (gauges.render 8 gaugeRows).diagnostics =
      [⟨"rows#0", .unsupportedType, "unsupported component type `gauge`"⟩] ∧
    (∃ output, CommandLine.check tidyDisk "tidy.json" = .done output) ∧
    ∀ limit env, (tidy.render limit env).Supported := by
  have hlisted : gauges.degradedNodes = [⟨some "dial", some "gauge", .unknownType "gauge"⟩] := by
    decide +kernel
  have htidy : tidy.degradedNodes = [] := by decide +kernel
  have hread : Document.read (Utf8.bytes tidy.encode.chars) = .ok tidy := by decide +kernel
  obtain ⟨hgauges, _⟩ := unsupported_foretold gauges
  obtain ⟨_, hcheck, hsupported⟩ := unsupported_foretold tidy
  refine ⟨by decide +kernel, fun f hf hk => ?_, by decide +kernel,
    (hcheck tidyDisk "tidy.json" _ (by decide +kernel) hread).2 htidy, hsupported htidy⟩
  obtain ⟨e, he, hid, htype⟩ := (hgauges 8 gaugeRows).1 f hf hk
  rw [hlisted, List.mem_singleton] at he
  rw [hid, htype, he]
  exact ⟨rfl, rfl⟩

end Document
end Screens
