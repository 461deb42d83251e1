import Screens.Config
import Screens.Proofs.Render.Hidden
import Screens.Template.Document

/-! Where decoding is cut off does not show.

A cut-off keeps of a node too deep its id and its type, and these are all that is drawn of
a node at the depth limit. So two nodes decoded from one value, each with enough levels to
reach the limit, are named alike and evaluated alike (`interchangeable_decodeAt`): at the
limit by their ids and types, above it because what is nested in them is so one level
further down.

`Document.render_of_cut`: so two documents decoded from one value or one text with the nodes
cut off at the depth limit or below give the same tree, and the limit of a valid
configuration is above the cut-off in use (`Config.maxDepth_le_standardCut`). -/
namespace Screens

/-! ### Nodes that cannot be told apart -/

/-- The nodes are named alike, and evaluated alike wherever they stand at this depth. -/
structure Node.Interchangeable (limit depth : Nat) (m n : Node) : Prop where
  id : m.id? = n.id?
  evaluated : ∀ (site : Site) (identity : String), site.depth = depth →
    Visit.evaluated limit ⟨m, site, identity⟩ = Visit.evaluated limit ⟨n, site, identity⟩

namespace Node.Interchangeable

variable {limit depth : Nat} {m n : Node}

theorem refl (n : Node) : Interchangeable limit depth n n := ⟨rfl, fun _ _ _ => rfl⟩

/-- At the limit only the id and the type are drawn. -/
theorem of_limit_le (h : limit ≤ depth) (hid : m.id? = n.id?) (htype : m.typeName? = n.typeName?) :
    Interchangeable limit depth m n := by
  refine ⟨hid, fun site identity hdepth => ?_⟩
  have hdeep : limit ≤ site.depth := hdepth ▸ h
  rw [Visit.evaluated_of_tooDeep (v := ⟨m, site, identity⟩) hdeep,
    Visit.evaluated_of_tooDeep (v := ⟨n, site, identity⟩) hdeep, Evaluate.degraded,
    Evaluate.degraded, hid, htype]

/-- Nodes of one id, type and conditions differ only where they are entered. -/
theorem of_alike (h : m.Alike n) (hentered : ∀ (site : Site) (identity : String),
      site.depth = depth → Visit.entered limit ⟨m, site, identity⟩ = true →
      Visit.evaluated limit ⟨m, site, identity⟩ = Visit.evaluated limit ⟨n, site, identity⟩) :
    Interchangeable limit depth m n := by
  refine ⟨h.id, fun site identity hdepth => ?_⟩
  cases he : Visit.entered limit ⟨m, site, identity⟩ with
  | false => exact h.evaluated_eq site identity he
  | true => exact hentered site identity hdepth he

variable {α : Type} {f g : α → Node}

/-- Side by side, too, they are evaluated alike. -/
theorem evaluated_children (values : List α) (h : ∀ v, Interchangeable limit depth (f v) (g v))
    {site : Site} (hdepth : site.depth = depth) (parent : String) (index : Nat) :
    (Visit.children (values.map f) site parent index).map (Visit.evaluated limit) =
      (Visit.children (values.map g) site parent index).map (Visit.evaluated limit) := by
  rw [Visit.children, Visit.children, List.zipIdx_map, List.zipIdx_map, List.map_map, List.map_map,
    List.map_map, List.map_map]
  refine List.map_congr_left fun v _ => ?_
  have hidentity : Evaluate.childIdentity (f v.1) parent v.2 site.owner =
      Evaluate.childIdentity (g v.1) parent v.2 site.owner := by
    unfold Evaluate.childIdentity
    rw [(h v.1).id]
  show Visit.evaluated limit
      ⟨f v.1, site, Evaluate.childIdentity (f v.1) parent v.2 site.owner⟩ =
    Visit.evaluated limit ⟨g v.1, site, Evaluate.childIdentity (g v.1) parent v.2 site.owner⟩
  rw [hidentity, (h v.1).evaluated site _ hdepth]

theorem container (c : Common) (kind : ContainerKind) (values : List α)
    (h : ∀ v, Interchangeable limit (depth + 1) (f v) (g v)) :
    Interchangeable limit depth (.container c kind (values.map f))
      (.container c kind (values.map g)) := by
  refine of_alike ⟨rfl, by cases kind <;> rfl, rfl, rfl⟩ fun site identity hdepth he => ?_
  have hinside : site.inside.depth = depth + 1 := congrArg (· + 1) hdepth
  refine Visit.evaluated_congr he he (by cases kind <;> rfl) rfl rfl ?_
  exact evaluated_children values h hinside identity 0

theorem list (c : Common) (source : String) (h : Interchangeable limit (depth + 1) m n) :
    Interchangeable limit depth (.list c source m) (.list c source n) := by
  refine of_alike ⟨rfl, rfl, rfl, rfl⟩ fun site identity hdepth he => ?_
  refine Visit.evaluated_congr he he rfl rfl rfl ?_
  simp only [Visit.inner]
  split
  · rfl
  · rw [Visit.items, Visit.items, List.map_map, List.map_map]
    refine List.map_congr_left fun v _ => ?_
    exact h.evaluated (site.atItem source _ v.1) _ (congrArg (· + 1) hdepth)

end Node.Interchangeable

/-! ### Decoding -/

theorem ContainerKind.name_of_ofName? {s : String} {kind : ContainerKind}
    (h : ofName? s = some kind) : kind.name = s := by
  unfold ofName? at h
  split at h <;> cases h <;> rfl

namespace Node

open Tolerant

theorem id?_ofFields (nested : Json → Node) (fields : List (String × Json)) :
    (ofFields nested fields).id? = optional Json.text? "id" fields := by
  unfold ofFields
  dsimp only
  repeat' split
  all_goals rfl

/-- The type of a node is the one it was written with. -/
theorem typeName?_ofFields (nested : Json → Node) (fields : List (String × Json)) :
    (ofFields nested fields).typeName? = optional Json.text? "type" fields := by
  unfold ofFields
  dsimp only
  cases optional Json.text? "type" fields with
  | none => rfl
  | some typeName =>
    dsimp only
    cases hkind : ContainerKind.ofName? typeName with
    | some kind => exact congrArg some (ContainerKind.name_of_ofName? hkind)
    | none =>
      dsimp only
      repeat' split
      all_goals rfl

/-- Whatever the cut-off and the levels left, the id is that of the value. -/
theorem id?_decodeAt (cut levels : Nat) (v : Json) :
    (decodeAt cut levels v).id? = v.fields?.bind (optional Json.text? "id") := by
  cases v with
  | obj fields =>
    cases levels with
    | zero => rfl
    | succ levels => exact id?_ofFields (decodeAt cut levels) fields
  | null | bool _ | num _ | str _ | arr _ => cases levels <;> rfl

theorem typeName?_decodeAt (cut levels : Nat) (v : Json) :
    (decodeAt cut levels v).typeName? = v.fields?.bind (optional Json.text? "type") := by
  cases v with
  | obj fields =>
    cases levels with
    | zero => rfl
    | succ levels => exact typeName?_ofFields (decodeAt cut levels) fields
  | null | bool _ | num _ | str _ | arr _ => cases levels <;> rfl

variable {limit depth : Nat}

/-- An object is decoded to the same node but for what is nested in it. -/
theorem interchangeable_ofFields {f g : Json → Node}
    (h : ∀ v, Interchangeable limit (depth + 1) (f v) (g v)) (fields : List (String × Json)) :
    Interchangeable limit depth (ofFields f fields) (ofFields g fields) := by
  unfold ofFields
  dsimp only
  cases optional Json.text? "type" fields with
  | none => exact .refl _
  | some typeName =>
    dsimp only
    cases ContainerKind.ofName? typeName with
    | some kind => exact .container (commonOf fields) kind _ h
    | none =>
      dsimp only
      split
      · exact .refl _
      · exact .refl _
      · exact .refl _
      · cases listBinding? fields with
        | none => exact .refl _
        | some binding => exact .list (commonOf fields) binding.1 (h binding.2)
      · exact .refl _
      · exact .refl _
      · exact .refl _

/-- Decoded with enough levels to reach the limit, a value gives nodes that cannot be told
apart. -/
theorem interchangeable_decodeAt (cut other : Nat) {levels more : Nat}
    (hlevels : limit ≤ depth + levels) (hmore : limit ≤ depth + more) (v : Json) :
    Interchangeable limit depth (decodeAt cut levels v) (decodeAt other more v) := by
  have hid := (id?_decodeAt cut levels v).trans (id?_decodeAt other more v).symm
  have htype := (typeName?_decodeAt cut levels v).trans (typeName?_decodeAt other more v).symm
  induction levels generalizing depth more v with
  | zero => exact .of_limit_le hlevels hid htype
  | succ levels ih =>
    cases more with
    | zero => exact .of_limit_le hmore hid htype
    | succ more =>
      cases v with
      | obj fields =>
        refine interchangeable_ofFields (fun v => ih ?_ ?_ v ?_ ?_) fields
        · omega
        · omega
        · exact (id?_decodeAt cut levels v).trans (id?_decodeAt other more v).symm
        · exact (typeName?_decodeAt cut levels v).trans (typeName?_decodeAt other more v).symm
      | null | bool _ | num _ | str _ | arr _ => exact .refl _

end Node

/-! ### Whole screens -/

namespace Document

/-- The document of a record's parts, or that they make none. -/
def assembled (cut : Nat) (parts : List (String × Json)) : Except Json.Fault Document :=
  match ofParts? cut parts with
  | some document => .ok document
  | none => .error .mismatched

/-- The document of a text, nodes cut off at a depth. -/
def readTo (cut : Nat) (bytes : Json.Bytes) : Except Json.Fault Document :=
  (Json.readRecord parts bytes.length bytes).bind (assembled cut)

theorem read_eq (bytes : Json.Bytes) : read bytes = readTo Node.standardCut bytes := rfl

variable (limit : Nat) {cut other : Nat}

/-- What the parts of a document come to is drawn alike, and comes to nothing alike. -/
theorem render_ofParts (hcut : limit ≤ cut) (hother : limit ≤ other) (env : Environment)
    (parts : List (String × Json)) :
    (ofParts? cut parts).map (render limit · env) =
      (ofParts? other parts).map (render limit · env) := by
  have hnode (v : Json) :
      Node.Interchangeable limit 0 (Node.decodeTo cut v) (Node.decodeTo other v) :=
    Node.interchangeable_decodeAt cut other (by omega) (by omega) v
  have htop (values : List Json) :
      (Visit.children (values.map (Node.decodeTo cut)) (.top env) rootIdentity 0).map
          (Visit.evaluated limit) =
        (Visit.children (values.map (Node.decodeTo other)) (.top env) rootIdentity 0).map
          (Visit.evaluated limit) :=
    Node.Interchangeable.evaluated_children values hnode rfl rootIdentity 0
  cases hid : Tolerant.optional Json.text? "id" parts with
  | none => simp only [ofParts?, hid, Option.bind_eq_bind, Option.bind_none]
  | some id =>
    simp only [ofParts?, hid, Option.bind_eq_bind, Option.bind_some, Option.pure_def,
      Option.map_some, Option.some.injEq, render_eq]
    simp only [top, htop]

theorem render_assembled (hcut : limit ≤ cut) (hother : limit ≤ other) (env : Environment)
    (parts : List (String × Json)) :
    (assembled cut parts).map (render limit · env) =
      (assembled other parts).map (render limit · env) := by
  have hparts := render_ofParts limit hcut hother env parts
  unfold assembled
  cases h : ofParts? cut parts with
  | none =>
    rw [h] at hparts
    rw [Option.map_eq_none_iff.1 hparts.symm]
  | some d =>
    rw [h] at hparts
    obtain ⟨e, he, hrender⟩ := Option.map_eq_some_iff.1 hparts.symm
    rw [he]
    exact congrArg Except.ok hrender.symm

/-- Wherever the nodes of a document are cut off, at the depth limit or below, it is drawn
as if they were not: the document of a value, and that of a text. -/
theorem render_of_cut (hcut : limit ≤ cut) (hother : limit ≤ other) (env : Environment) :
    (∀ v, (decodeTo? cut v).map (render limit · env) =
      (decodeTo? other v).map (render limit · env)) ∧
    ∀ bytes, (readTo cut bytes).map (render limit · env) =
      (readTo other bytes).map (render limit · env) := by
  constructor
  · intro v
    rw [decodeTo?, decodeTo?, Option.map_bind, Option.map_bind]
    exact congrArg _ (funext (render_ofParts limit hcut hother env))
  · intro bytes
    unfold readTo
    cases Json.readRecord parts bytes.length bytes with
    | error fault => rfl
    | ok parts => exact render_assembled limit hcut hother env parts

/-- A text of two cards, one in the other, around an image of which nothing but the id and
the type is well-formed. -/
def nested : Json.Bytes :=
  ("\x7b\"id\":\"s\",\"components\":[\x7b\"type\":\"card\",\"id\":\"a\",\"children\":[" ++
    "\x7b\"type\":\"card\",\"id\":\"b\",\"children\":[\x7b\"type\":\"image\",\"id\":\"c\"," ++
    "\"imageUrl\":7,\"conditions\":4\x7d]\x7d]\x7d]\x7d").toUTF8.toList

theorem render_nested :
    (readTo 2 nested).toOption.isSome ∧
      (readTo 2 nested).toOption ≠ (readTo 512 nested).toOption ∧
      (readTo 2 nested).map (render 2 · .empty) = (readTo 512 nested).map (render 2 · .empty) :=
  ⟨by decide +kernel, by decide +kernel,
    (render_of_cut 2 (by decide) (by decide) .empty).2 nested⟩

end Document

/-! ### The limits in use -/

namespace Config

variable {c valid : Config}

theorem maxDepth_le_of_fault?_none (h : c.fault? = none) : c.interpreter.maxDepth ≤ depthLimit := by
  refine UInt64.not_lt.1 fun hdeep => ?_
  rw [fault?, if_pos (c := _ ∨ _) (.inr hdeep)] at h
  split at h <;> cases h

/-- A service that starts renders to a limit above the cut-off. -/
theorem maxDepth_le_standardCut (h : c.validated = .ok valid) :
    valid.interpreter.maxDepth.toNat ≤ Node.standardCut := by
  have hle := UInt64.le_iff_toNat_le.1 (maxDepth_le_of_fault?_none (fault?_of_validated h))
  exact Nat.le_trans hle (by decide)

end Config
end Screens
