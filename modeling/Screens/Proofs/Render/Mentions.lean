import Screens.Proofs.Environment.Items
import Screens.Proofs.Render.Report

/-! What evaluation reads.

Of a scope a node reads the paths it mentions: the fields of its conditions, the data
source of a list, and the tokens of its texts. Scopes that answer these alike are as good
as each other for all of the node but what is inside it (`Visit.front_congr`), and scopes
that answer a path alike do so below one more item (`Scope.AgreeOn.withItem`). -/
namespace Screens

/-! ### Paths that are mentioned -/

namespace Interpolation

/-- The path of a token. -/
def Piece.path? : Piece → Option String
  | literal _ => none
  | token _ path => some (String.ofList path)

/-- The paths of the tokens in a text. -/
def paths (template : String) : List String := (pieces template.toList).filterMap Piece.path?

end Interpolation

namespace Node

/-- The data source of a list. -/
def source? : Node → Option String
  | list _ source _ => some source
  | _ => none

/-- The paths a node mentions, none of those inside it. -/
def mentions (n : Node) : List String :=
  n.conditions.map (·.field) ++ n.source?.toList ++
    (n.ownTexts ++ n.actionTexts).flatMap Interpolation.paths

end Node

/-- Scopes that answer these paths alike. -/
def Scope.AgreeOn (paths : List String) (s t : Scope) : Prop :=
  ∀ path ∈ paths, s.lookup path = t.lookup path

namespace Scope.AgreeOn

variable {paths fewer : List String} {s t : Scope}

theorem mono (h : AgreeOn paths s t) (hsub : fewer ⊆ paths) : AgreeOn fewer s t :=
  fun path hpath => h path (hsub hpath)

theorem withItem (h : AgreeOn paths s t) (v : Json) :
    AgreeOn paths (s.withItem v) (t.withItem v) := by
  intro path hpath
  rw [lookup_withItem, lookup_withItem, h path hpath]

end Scope.AgreeOn

/-! ### Texts, actions, images and items -/

namespace Interpolation

variable {s t : Scope}

theorem interpolate_congr {template : String} (h : s.AgreeOn (paths template) t) :
    interpolate template s = interpolate template t := by
  have hpiece : ∀ p ∈ pieces template.toList,
      p.chars s = p.chars t ∧ p.unresolved? s = p.unresolved? t := by
    intro p hp
    cases p with
    | literal c => exact ⟨rfl, rfl⟩
    | token written path =>
      have hlookup : s.lookup (String.ofList path) = t.lookup (String.ofList path) :=
        h _ (List.mem_filterMap.2 ⟨_, hp, rfl⟩)
      simp only [Piece.chars, Piece.unresolved?, hlookup, and_self]
  have hchars : (pieces template.toList).flatMap (·.chars s) =
      (pieces template.toList).flatMap (·.chars t) :=
    List.flatMap_congr fun p hp => (hpiece p hp).1
  have hunresolved : (pieces template.toList).filterMap (·.unresolved? s) =
      (pieces template.toList).filterMap (·.unresolved? t) :=
    List.filterMap_congr fun p hp => (hpiece p hp).2
  simp only [interpolate, hchars, hunresolved]

end Interpolation

theorem Keyed.map_congr {α β : Type} {f g : α → β} {m : Keyed α}
    (h : ∀ e ∈ m.entries, f e.2 = g e.2) : m.map f = m.map g := by
  have hentries : (m.map f).entries = (m.map g).entries :=
    List.map_congr_left fun e he => congrArg (e.1, ·) (h e he)
  revert hentries
  cases m.map f
  cases m.map g
  rintro rfl
  rfl

namespace Evaluate

variable {s t : Scope}

theorem fill_congr (identity : String) {template : String}
    (h : s.AgreeOn (Interpolation.paths template) t) :
    fill s identity template = fill t identity template := by
  rw [fill, fill, Interpolation.interpolate_congr h]

theorem package_congr (identity : String) {a : Action}
    (h : s.AgreeOn (a.texts.flatMap Interpolation.paths) t) :
    package s identity a = package t identity a := by
  have hfill : ∀ text ∈ a.texts, fill s identity text = fill t identity text := fun text ht =>
    fill_congr identity (h.mono fun path hp => List.mem_flatMap.2 ⟨text, ht, hp⟩)
  have htarget := hfill a.target List.mem_cons_self
  have hvalue : ∀ e ∈ a.parameters.entries, fill s identity e.2 = fill t identity e.2 :=
    fun e he => hfill e.2 (List.mem_cons_of_mem _ (List.mem_map_of_mem he))
  have hparameters : (a.parameters.map fun v => (fill s identity v).1) =
      a.parameters.map fun v => (fill t identity v).1 :=
    Keyed.map_congr fun e he => congrArg (·.1) (hvalue e he)
  have hfaults : (a.parameters.entries.flatMap fun e => (fill s identity e.2).2) =
      a.parameters.entries.flatMap fun e => (fill t identity e.2).2 :=
    List.flatMap_congr fun e he => congrArg (·.2) (hvalue e he)
  simp only [package, htarget, hparameters, hfaults]

theorem items_congr (identity : String) {source : String} (h : s.lookup source = t.lookup source) :
    items s identity source = items t identity source := by
  rw [items, items, h]

end Evaluate

theorem Condition.allHold_congr {s t : Scope} {conditions : List Condition}
    (h : s.AgreeOn (conditions.map (·.field)) t) : allHold conditions s = allHold conditions t := by
  have hholds : conditions.map (·.holds s) = conditions.map (·.holds t) := by
    refine List.map_congr_left fun c hc => ?_
    have hfield := h c.field (List.mem_map_of_mem hc)
    simp only [holds, hfield]
  have hall := congrArg (·.all id) hholds
  rw [List.all_map, List.all_map] at hall
  exact hall

/-! ### Nodes -/

namespace Visit

variable {n : Node} {s t : Site}

theorem admitted_congr (h : s.scope.AgreeOn n.mentions t.scope) (identity other : String) :
    admitted ⟨n, s, identity⟩ = admitted ⟨n, t, other⟩ := by
  refine Condition.allHold_congr (h.mono fun path hp => ?_)
  rw [Node.mentions]
  exact List.mem_append_left _ (List.mem_append_left _ hp)

theorem fill_congr (h : s.scope.AgreeOn n.mentions t.scope) (identity : String) {text : String}
    (ht : text ∈ n.ownTexts) :
    Evaluate.fill s.scope identity text = Evaluate.fill t.scope identity text :=
  Evaluate.fill_congr identity (h.mono fun _ hp => List.mem_append_right _
    (List.mem_flatMap.2 ⟨text, List.mem_append_left _ ht, hp⟩))

theorem package_congr (h : s.scope.AgreeOn n.mentions t.scope) (identity : String) {a : Action}
    (ha : n.common?.bind (·.action) = some a) :
    Evaluate.package s.scope identity a = Evaluate.package t.scope identity a := by
  have hactions : n.actionTexts = a.texts := by rw [Node.actionTexts, ha]; rfl
  refine Evaluate.package_congr identity (h.mono fun path hp => ?_)
  obtain ⟨text, ht, hpath⟩ := List.mem_flatMap.1 hp
  exact List.mem_append_right _
    (List.mem_flatMap.2 ⟨text, List.mem_append_right _ (hactions ▸ ht), hpath⟩)

theorem locate_congr {c : Common} {source : ImageSource}
    (h : s.scope.AgreeOn (Node.image c source).mentions t.scope) (identity : String) :
    Evaluate.locate s.scope identity source = Evaluate.locate t.scope identity source := by
  have hfill := @fill_congr (.image c source) s t h identity
  cases source <;> simp only [Evaluate.locate, hfill List.mem_cons_self]

theorem lookup_congr {c : Common} {source : String} {item : Node}
    (h : s.scope.AgreeOn (Node.list c source item).mentions t.scope) :
    s.scope.lookup source = t.scope.lookup source :=
  h source (List.mem_append_left _ (List.mem_append_right _ List.mem_cons_self))

/-- The face of an entered node depends on the paths it mentions, and for a list on
whether its data source is being expanded. -/
theorem front_congr (h : s.scope.AgreeOn n.mentions t.scope) (identity : String)
    (hcyclic : cyclic ⟨n, s, identity⟩ = cyclic ⟨n, t, identity⟩) :
    front ⟨n, s, identity⟩ = front ⟨n, t, identity⟩ := by
  have hworn : (n.common?.bind (·.action)).map (fun a => (Evaluate.package s.scope identity a).1) =
      (n.common?.bind (·.action)).map fun a => (Evaluate.package t.scope identity a).1 :=
    Option.map_congr fun a ha => congrArg (·.1) (package_congr h identity ha)
  cases n with
  | unsupported => rfl
  | spacer c | divider c | container c kind inner =>
    have haction : c.action.map _ = c.action.map _ := hworn
    simp only [front, haction]
  | text c text | button c text =>
    have haction : c.action.map _ = c.action.map _ := hworn
    simp only [front, haction, fill_congr h identity List.mem_cons_self]
  | image c source =>
    have haction : c.action.map _ = c.action.map _ := hworn
    simp only [front, haction, locate_congr h identity]
  | list c source item =>
    have haction : c.action.map _ = c.action.map _ := hworn
    have hcontains : s.expanding.contains source = t.expanding.contains source := hcyclic
    simp only [front, haction, hcontains]

/-- So do the faults it adds. -/
theorem opening_congr (h : s.scope.AgreeOn n.mentions t.scope) (identity : String)
    (hcyclic : cyclic ⟨n, s, identity⟩ = cyclic ⟨n, t, identity⟩) :
    opening ⟨n, s, identity⟩ = opening ⟨n, t, identity⟩ := by
  cases n with
  | unsupported | container | spacer | divider => rfl
  | text c text | button c text => simp only [opening, fill_congr h identity List.mem_cons_self]
  | image c source => simp only [opening, locate_congr h identity]
  | list c source item =>
    have hcontains : s.expanding.contains source = t.expanding.contains source := hcyclic
    simp only [opening, hcontains, Evaluate.items_congr identity (lookup_congr h)]

theorem closing_congr (h : s.scope.AgreeOn n.mentions t.scope) (identity : String)
    (hcyclic : cyclic ⟨n, s, identity⟩ = cyclic ⟨n, t, identity⟩) :
    closing ⟨n, s, identity⟩ = closing ⟨n, t, identity⟩ := by
  rw [closing, closing, hcyclic]
  cases ha : n.common?.bind (·.action) with
  | none => rfl
  | some a => simp only [package_congr h identity ha]

end Visit
end Screens
