import Screens.Proofs.Template.Malformed

/-! Unsupported nodes are kept as they came.

A decoder that makes each level from its own members alone takes the members that nodes are
nested in out of an object first, and has to put them back wherever the node turns out to be
unsupported. `Node.decodeDetached` does so, and on values in canonical form it decodes the same
as the decoder that takes nothing out (`decodeDetachedAt_eq`).

A way in a decoded node is a way in the value it was decoded from (`along?_decodeAt`). So the
raw value of an unsupported node is the value at the same place, and of an object at the cut-off
its leaves. -/
namespace Screens

/-- What a way leads to in a value. -/
def Json.along? : Way → Json → Option Json
  | [], v => some v
  | turn :: way, v => (v.next? turn).bind (along? way)

namespace Node

open Tolerant (Parts optional)

/-- The members of an object that nodes are nested in, taken out of it. -/
structure Nested where
  children : Option Json
  item : Option Json

namespace Nested

/-- The nested members that an object has. -/
def ofFields (fields : Parts) : Nested :=
  ⟨fields.lookup "children", fields.lookup "itemTemplate"⟩

/-- Takes them out of an object; what is left of it comes second. -/
def detach (fields : Parts) : Nested × Parts :=
  let shallow := fields.filter (·.1 != "children")
  (⟨fields.lookup "children", shallow.lookup "itemTemplate"⟩,
    shallow.filter (·.1 != "itemTemplate"))

/-- Puts a member back, if there was one. -/
def putBack (name : String) : Option Json → Parts → Parts
  | some v, fields => Entries.insert name v fields
  | none, fields => fields

def reattach (nested : Nested) (shallow : Parts) : Parts :=
  putBack "itemTemplate" nested.item (putBack "children" nested.children shallow)

end Nested

/-- The list of an object that its nested members were taken out of, or what becomes of it
with all of them in place. -/
def listOr (unsupported : Nested → Node) (decode : Json → Node) (nested : Nested) (shallow : Parts) :
    Node :=
  -- The template is taken before it is clear whether there is a list.
  let emptied := { nested with item := none }
  match optional Json.text? "dataSource" shallow, nested.item with
  | some source, some item =>
    if item.isNull then unsupported { emptied with item := some item }
    else .list (commonOf shallow) source (decode item)
  | _, item => unsupported { emptied with item }

/-- The node of an object that its nested members were taken out of. -/
def ofDetached (decode : Json → Node) (nested : Nested) (shallow : Parts) : Node :=
  let common := commonOf shallow
  let unsupported (typeName : Option String) (reason : Unsupported) (nested : Nested) : Node :=
    .unsupported common.id typeName common.conditions reason (.obj (nested.reattach shallow))
  let text := optional Json.text? "text" shallow
  let label := optional Json.text? "label" shallow
  match optional Json.text? "type" shallow with
  | none => unsupported none .missingType nested
  | some typeName =>
    match ContainerKind.ofName? typeName with
    | some kind =>
      .container common kind (((nested.children.bind Json.items?).getD []).map decode)
    | none =>
      match typeName with
      | "text" => .text common ((text <|> label).getD "")
      | "button" => .button common ((label <|> text).getD "")
      | "image" => match imageSource? shallow with
        | some source => .image common source
        | none => unsupported (some typeName) .imageWithoutSource nested
      | "list" => listOr (unsupported (some typeName) .listWithoutBinding) decode nested shallow
      | "spacer" => .spacer common
      | "divider" => .divider common
      | _ => unsupported (some typeName) (.unknownType typeName) nested

/-- The node of a value with `levels` levels left above the cut-off, by taking out and putting
back. -/
def decodeDetachedAt (cut : Nat) : (levels : Nat) → Json → Node
  | 0, .obj fields => tooDeep cut fields
  | levels + 1, .obj fields =>
    ofDetached (decodeDetachedAt cut levels) (Nested.detach fields).1 (Nested.detach fields).2
  | _, v => .unsupported none none [] .notAnObject v

def decodeDetached (v : Json) : Node := decodeDetachedAt standardCut standardCut v

variable {cut levels : Nat} {v : Json} {fields : Parts} {n : Node} {way : Way}

/-! ### Taking out and putting back -/

theorem lookup_filter_ne {key name : String} (h : Entries.Sorted fields) (hne : name ≠ key) :
    (fields.filter (·.1 != key)).lookup name = fields.lookup name := by
  rw [Lookup.lookup_filter (·.1 != key) (Entries.nodup_keys h)]
  cases fields.lookup name with
  | none => rfl
  | some v => simp [hne]

theorem putBack_filter (name : String) (h : Entries.Sorted fields) :
    Nested.putBack name (fields.lookup name) (fields.filter (·.1 != name)) = fields := by
  cases hl : fields.lookup name with
  | none => exact Lookup.filter_ne_eq_self (Lookup.eq_none_iff_not_mem.1 hl)
  | some v => exact Entries.insert_filter h hl

theorem detach_fst (h : Entries.Sorted fields) :
    (Nested.detach fields).1 = .ofFields fields :=
  congrArg (Nested.mk _) (lookup_filter_ne h (by decide))

theorem detach_snd (fields : Parts) : (Nested.detach fields).2 =
    (fields.filter (·.1 != "children")).filter (·.1 != "itemTemplate") := rfl

/-- Nothing is lost on the way. -/
theorem reattach_detach (h : Entries.Sorted fields) :
    (Nested.ofFields fields).reattach (Nested.detach fields).2 = fields := by
  -- The children are put back first, so they are taken for the last that was taken out.
  have hchildren := putBack_filter "children" (Entries.sorted_filter (·.1 != "itemTemplate") h)
  rw [lookup_filter_ne h (by decide), List.filter_comm, ← detach_snd] at hchildren
  show Nested.putBack _ _ (Nested.putBack "children" (fields.lookup "children") _) = fields
  rw [hchildren]
  exact putBack_filter "itemTemplate" h

/-- Every other part is still found. -/
theorem optional_detach {α : Type} (h : Entries.Sorted fields) (decode : Json → Option α)
    {name : String} (hchildren : name ≠ "children") (hitem : name ≠ "itemTemplate") :
    optional decode name (Nested.detach fields).2 = optional decode name fields := by
  rw [Tolerant.optional, Tolerant.optional, detach_snd,
    lookup_filter_ne (Entries.sorted_filter _ h) hitem, lookup_filter_ne h hchildren]

theorem commonOf_detach (h : Entries.Sorted fields) :
    commonOf (Nested.detach fields).2 = commonOf fields := by
  simp [commonOf, Tolerant.sequence, optional_detach h]

theorem imageSource?_detach (h : Entries.Sorted fields) :
    imageSource? (Nested.detach fields).2 = imageSource? fields := by
  simp [imageSource?, optional_detach h]

section Object
variable {f g : Json → Node} (h : ∀ v, Json.Canonical v → f v = g v)
  (hc : Json.Canonical (.obj fields))
include h hc

theorem listOr_detach (unsupported : Nested → Node) :
    listOr unsupported f (.ofFields fields) (Nested.detach fields).2 =
      match listBinding? fields with
      | some (source, item) => .list (commonOf fields) source (g item)
      | none => unsupported (.ofFields fields) := by
  unfold listOr listBinding? Nested.ofFields
  simp only [commonOf_detach hc.sorted, optional_detach hc.sorted, ne_eq, String.reduceEq,
    not_false_eq_true]
  cases hitem : fields.lookup "itemTemplate" with
  | none => cases optional Json.text? "dataSource" fields <;> rfl
  | some item =>
    have hsame := h item (hc.fields _ (Lookup.mem_of_lookup hitem))
    cases optional Json.text? "dataSource" fields with
    | none => rfl
    | some source => cases hnull : item.isNull <;> simp [hnull, hsame]

/-- An object is decoded the same if what is nested in it is. -/
theorem ofDetached_detach :
    ofDetached f (Nested.detach fields).1 (Nested.detach fields).2 = ofFields g fields := by
  have hs := hc.sorted
  have hchildren : (((Nested.ofFields fields).children.bind Json.items?).getD []).map f =
      ((optional Json.items? "children" fields).getD []).map g :=
    List.map_congr_left fun v hv => h v (canonical_of_mem_items hc.fields hv)
  unfold ofDetached
  simp only [commonOf_detach hs, detach_fst hs, reattach_detach hs, imageSource?_detach hs,
    listOr_detach h hc, optional_detach hs, ne_eq, String.reduceEq, not_false_eq_true, hchildren]
  -- What is left is the definition of the other side, case by case.
  rfl

end Object

theorem decodeDetachedAt_eq (cut levels : Nat) {v : Json} (hc : Json.Canonical v) :
    decodeDetachedAt cut levels v = decodeAt cut levels v := by
  induction levels generalizing v with
  | zero => cases v <;> rfl
  | succ levels ih =>
    cases v with
    | obj fields => exact ofDetached_detach (fun v hv => ih hv) hc
    | null | bool _ | num _ | str _ | arr _ => rfl

/-! ### The value at a place -/

/-- A way in a decoded node is a way in the value, and leads to what is decoded of the value
there. -/
theorem along?_decodeAt {level : Nat} (h : level + levels = cut)
    (hn : (decodeAt cut levels v).along? way = some n) : ∃ found, v.along? way = some found ∧
      way.length ≤ levels ∧ decodeAt cut (levels - way.length) found = n := by
  induction way generalizing level levels v with
  | nil => exact ⟨v, rfl, Nat.zero_le _, Option.some.inj hn⟩
  | cons turn way ih =>
    obtain ⟨m, hm, hn⟩ := Option.bind_eq_some_iff.1 hn
    obtain ⟨w, hleads, rfl⟩ := (next?_decodeAt h).1 hm
    have hlt := hleads.lt
    obtain ⟨found, hfound, hlength, hdecoded⟩ :=
      ih (show level + 1 + (levels - 1) = cut by omega) hn
    refine ⟨found, ?_, ?_, ?_⟩
    · rw [Json.along?, hleads.next, Option.bind_some, hfound]
    · rw [List.length_cons]
      omega
    · rw [← hdecoded, Nat.sub_sub, List.length_cons, Nat.add_comm]

/-- Above the cut-off the raw value is the value, and at the cut-off what an object keeps are
its leaves. -/
theorem raw_decodeAt {id typeName : Option String} {conditions : List Condition}
    {reason : Unsupported} {raw : Json}
    (h : decodeAt cut levels v = .unsupported id typeName conditions reason raw) :
    (0 < levels → raw = v) ∧
      (levels = 0 → ∀ fields, v = .obj fields → raw = .obj (fields.filter (·.2.isLeaf))) := by
  cases v with
  | obj fields =>
    cases levels with
    | zero =>
      cases h
      refine ⟨fun hpos => absurd hpos (Nat.lt_irrefl 0), fun _ _ heq => ?_⟩
      cases heq
      rfl
    | succ levels =>
      refine ⟨fun _ => ?_, fun hzero => by cases hzero⟩
      have hdecoded := decoded_ofFields (decodeAt cut levels) fields
      rw [show ofFields (decodeAt cut levels) fields = _ from h] at hdecoded
      cases hdecoded
      rfl
  | null | bool _ | num _ | str _ | arr _ =>
    refine ⟨fun _ => ?_, fun _ _ heq => by cases heq⟩
    cases levels <;> cases h <;> rfl

/-- **Unsupported nodes are kept untouched.** A node is decoded the same whether what is nested
in it is taken out and put back or left in place. Its nodes are walked where ways lead, and the
raw value of an unsupported one, which it is encoded as, is the value that the same way leads to;
of an object as deep as the cut-off, or deeper, it is the leaves. -/
theorem decode_keeps_raw (v : Json) :
    decodeDetached v.canonical = decode v.canonical ∧
    (∀ n, n ∈ (decode v.canonical).walk ↔ ∃ way, (decode v.canonical).along? way = some n) ∧
    ∀ way id typeName conditions reason raw, (decode v.canonical).along? way =
        some (.unsupported id typeName conditions reason raw) →
      (unsupported id typeName conditions reason raw).encode = raw ∧
      ∃ found, v.canonical.along? way = some found ∧
        (way.length < standardCut → raw = found) ∧
        (standardCut ≤ way.length →
          ∀ fields, found = .obj fields → raw = .obj (fields.filter (·.2.isLeaf))) := by
  refine ⟨decodeDetachedAt_eq _ _ (Json.canonical_canonical v), fun n => mem_walk, ?_⟩
  intro way id typeName conditions reason raw hn
  obtain ⟨found, hfound, hlength, hdecoded⟩ := along?_decodeAt (Nat.zero_add standardCut) hn
  obtain ⟨habove, hcut⟩ := raw_decodeAt hdecoded
  exact ⟨rfl, found, hfound, fun hlt => habove (by omega), fun hle => hcut (by omega)⟩

/-- A list with a template that is no template, and more besides. -/
def oddList : Json :=
  .obj [("children", .arr [.null]), ("dataSource", .str "xs"), ("itemTemplate", .null),
    ("type", .str "list"), ("zoom", .obj [("by", .ofCount 2)])]

/-- A card with a list, the template of which is that list. -/
def oddCard : Json :=
  .obj [("type", .str "card"), ("children", .arr [.null,
    .obj [("type", .str "list"), ("dataSource", .str "ys"), ("itemTemplate", oddList)]])]

theorem oddList_untouched :
    (decode oddCard.canonical).along? [.child 1, .item] =
        some (.unsupported none (some "list") [] .listWithoutBinding oddList) ∧
      (unsupported none (some "list") [] .listWithoutBinding oddList).encode = oddList ∧
      ∃ found, oddCard.canonical.along? [.child 1, .item] = some found ∧ oddList = found := by
  have hodd : (decode oddCard.canonical).along? [.child 1, .item] =
      some (.unsupported none (some "list") [] .listWithoutBinding oddList) := by decide +kernel
  obtain ⟨hencode, found, hfound, hraw, _⟩ := (decode_keeps_raw oddCard).2.2 _ _ _ _ _ _ hodd
  exact ⟨hodd, hencode, found, hfound, hraw (by decide)⟩

end Node
end Screens
