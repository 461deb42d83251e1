import Screens.Proofs.Render.Cut
import Screens.Proofs.Template.Printed
import Screens.Proofs.Template.RoundTrip
import Screens.Proofs.Template.Ways

/-! Malformed nodes.

Whether a value is a malformed node is said of the value alone: what it has under the names
that matter, and how deep it is nested (`Malformed`). Where nodes are looked for is said of
values too: the components, and inside a node that is not malformed its children or its
template (`Reached`).

Decoding agrees with both. A value is decoded to a node that is reported exactly if it is
malformed (`isSome_degraded?_decodeAt`), and the turns from a decoded node lead to what the
same turns lead to from its value (`next?_decodeAt`). So the report of a document names the
malformed values in document order, and nothing else in a node gets it there. -/
namespace Screens

namespace Json

/-- What an object has under a name. -/
def member? (name : String) (v : Json) : Option Json := v.fields?.bind (·.lookup name)

/-- The text that an object has under a name. -/
def string? (name : String) (v : Json) : Option String := (v.member? name).bind text?

theorem string?_eq (name : String) (v : Json) :
    v.string? name = v.fields?.bind (Tolerant.optional text? name) := Option.bind_assoc ..

/-- What a turn leads to in a value, whatever kind of node it is. -/
def next? : Turn → Json → Option Json
  | .child index, v => ((v.member? "children").bind items?).bind (·[index]?)
  | .item, v => v.member? "itemTemplate"

end Json

namespace Node

open Document (degraded?)
open Tolerant

/-- The types of the nodes that have children. -/
def containerTypes : List String := ["vstack", "hstack", "zstack", "card"]

/-- The types of all nodes. -/
def types : List String :=
  containerTypes ++ ["text", "button", "image", "list", "spacer", "divider"]

/-- No node can be made of the value at this level, with the nodes cut off at a depth. -/
inductive Malformed (cut level : Nat) (v : Json) : Prop where
  | notAnObject (h : v.fields? = none)
  | tooDeep (h : cut ≤ level)
  | untyped (h : v.string? "type" = none)
  | unknownType (type : String) (htype : v.string? "type" = some type) (h : type ∉ types)
  | imageWithoutSource (htype : v.string? "type" = some "image")
      (hurl : v.string? "imageUrl" = none) (hname : v.string? "imageName" = none)
  | listWithoutSource (htype : v.string? "type" = some "list")
      (h : v.string? "dataSource" = none)
  | listWithoutItem (htype : v.string? "type" = some "list")
      (h : v.member? "itemTemplate" = none ∨ v.member? "itemTemplate" = some .null)

/-- The types of the nodes that a turn leads from. -/
def turnTypes : Turn → List String
  | .child _ => containerTypes
  | .item => ["list"]

/-- From a value that is no malformed node a turn of its type leads to the next one. -/
structure Leads (cut level : Nat) (v : Json) (turn : Turn) (w : Json) : Prop where
  wellFormed : ¬ Malformed cut level v
  type : ∃ type ∈ turnTypes turn, v.string? "type" = some type
  next : v.next? turn = some w

/-- The way to a value that is taken for a node, and the level that it is at. -/
inductive Reached (cut : Nat) (components : List Json) : Way → Nat → Json → Prop where
  | component {index : Nat} {v : Json} (h : components[index]? = some v) :
    Reached cut components [.child index] 0 v
  | inside {way : Way} {level : Nat} {v w : Json} {turn : Turn}
      (h : Reached cut components way level v) (leads : Leads cut level v turn w) :
    Reached cut components (way ++ [turn]) (level + 1) w

variable {cut level levels : Nat} {v w : Json} {fields : List (String × Json)} {n : Node}
  {turn : Turn} {way : Way} {components : List Json}

theorem Leads.lt (h : Leads cut level v turn w) : level < cut :=
  Nat.lt_of_not_le fun hdeep => h.wellFormed (.tooDeep hdeep)

/-! ### Which nodes are reported -/

theorem ofName?_eq_none_iff {s : String} : ContainerKind.ofName? s = none ↔ s ∉ containerTypes := by
  unfold ContainerKind.ofName?
  split <;> simp_all [containerTypes]

theorem imageSource?_eq_none_iff : imageSource? fields = none ↔
    optional Json.text? "imageUrl" fields = none ∧
      optional Json.text? "imageName" fields = none := by
  unfold imageSource?
  split <;> simp_all

theorem listBinding?_eq_none_iff : listBinding? fields = none ↔
    optional Json.text? "dataSource" fields = none ∨ fields.lookup "itemTemplate" = none ∨
      fields.lookup "itemTemplate" = some .null := by
  unfold listBinding?
  cases optional Json.text? "dataSource" fields with
  | none => simp
  | some source =>
    cases fields.lookup "itemTemplate" with
    | none => simp
    | some item => cases item <;> simp [Json.isNull]

theorem lookup_of_listBinding? {source : String} {item : Json}
    (h : listBinding? fields = some (source, item)) : fields.lookup "itemTemplate" = some item := by
  unfold listBinding? at h
  split at h
  · split at h <;> cases h
    assumption
  · cases h

/-- The node of a malformed object is reported. -/
theorem isSome_degraded?_of_malformed (nested : Json → Node) (h : level < cut)
    (hm : Malformed cut level (.obj fields)) : (degraded? (ofFields nested fields)).isSome := by
  have hstring (name : String) :
      (Json.obj fields).string? name = optional Json.text? name fields := rfl
  have himage : ContainerKind.ofName? "image" = none := rfl
  have hlist : ContainerKind.ofName? "list" = none := rfl
  cases hm with
  | notAnObject hobj => cases hobj
  | tooDeep hdeep => exact absurd hdeep (Nat.not_le.2 h)
  | untyped htype =>
    rw [hstring] at htype
    simp [ofFields, htype, degraded?]
  | unknownType type htype hnot =>
    rw [hstring] at htype
    have hkind := ofName?_eq_none_iff.2 fun hc => hnot (List.mem_append_left _ hc)
    -- Only the last branch is for a type that is none of the names.
    unfold ofFields
    dsimp only
    rw [htype]
    dsimp only
    rw [hkind]
    dsimp only
    split
    case h_7 => rfl
    all_goals exact absurd (by decide) hnot
  | imageWithoutSource htype hurl hname =>
    rw [hstring] at htype hurl hname
    have hnone := imageSource?_eq_none_iff.2 ⟨hurl, hname⟩
    simp [ofFields, htype, himage, hnone, degraded?]
  | listWithoutSource htype hsource =>
    rw [hstring] at htype hsource
    have hnone := listBinding?_eq_none_iff.2 (.inl hsource)
    simp [ofFields, htype, hlist, hnone, degraded?]
  | listWithoutItem htype hitem =>
    rw [hstring] at htype
    have hnone := listBinding?_eq_none_iff.2 (.inr hitem)
    simp [ofFields, htype, hlist, hnone, degraded?]

/-- Nothing else in an object gets its node reported. -/
theorem malformed_of_isSome_degraded? (nested : Json → Node)
    (h : (degraded? (ofFields nested fields)).isSome) : Malformed cut level (.obj fields) := by
  unfold ofFields at h
  dsimp only at h
  split at h
  · exact .untyped ‹_›
  · rename_i type htype
    split at h
    · cases h
    · rename_i hkind
      have hcontainer := ofName?_eq_none_iff.1 hkind
      split at h
      · cases h
      · cases h
      · split at h
        · cases h
        · rename_i hnone
          have himage := imageSource?_eq_none_iff.1 hnone
          exact .imageWithoutSource htype himage.1 himage.2
      · split at h
        · cases h
        · rename_i hnone
          rcases listBinding?_eq_none_iff.1 hnone with hsource | hitem
          · exact .listWithoutSource htype hsource
          · exact .listWithoutItem htype hitem
      · cases h
      · cases h
      · refine .unknownType type htype ?_
        simp_all [types]

theorem isSome_degraded?_decodeAt (h : level + levels = cut) (v : Json) :
    (degraded? (decodeAt cut levels v)).isSome ↔ Malformed cut level v := by
  cases v with
  | obj fields =>
    cases levels with
    | zero => exact ⟨fun _ => .tooDeep (Nat.le_of_eq h.symm), fun _ => rfl⟩
    | succ levels =>
      exact ⟨malformed_of_isSome_degraded? _, isSome_degraded?_of_malformed _ (by omega)⟩
  | null | bool _ | num _ | str _ | arr _ =>
    exact ⟨fun _ => .notAnObject rfl, fun _ => by cases levels <;> rfl⟩

/-! ### Where nodes are looked for -/

/-- What a turn leads to from a decoded object is nested in the object, unless the node is
reported or of another type. -/
theorem Decoded.next?_eq_some {nested : Json → Node} {m : Node} (h : Decoded nested fields m) :
    m.next? turn = some n ↔ degraded? m = none ∧ (∃ type ∈ turnTypes turn, m.typeName? = some type) ∧
      ∃ w, (Json.obj fields).next? turn = some w ∧ nested w = n := by
  cases h with
  | unsupported => cases turn <;> simp [next?, degraded?]
  | text | button | image | spacer | divider =>
    cases turn <;> simp [next?, typeName?, turnTypes, containerTypes]
  | container kind =>
    cases turn with
    | item => cases kind <;> simp [next?, typeName?, turnTypes, ContainerKind.name]
    | child index =>
      have hkind : kind.name ∈ containerTypes := by cases kind <;> decide
      have hitems : ((optional Json.items? "children" fields).getD [])[index]? =
          (Json.obj fields).next? (.child index) := by
        show _ = (optional Json.items? "children" fields).bind (·[index]?)
        cases optional Json.items? "children" fields <;> rfl
      simp [next?, degraded?, typeName?, turnTypes, hkind, hitems]
  | list source item hbinding =>
    cases turn with
    | child index => simp [next?, typeName?, turnTypes, containerTypes]
    | item =>
      have hitem : (Json.obj fields).next? .item = some item :=
        lookup_of_listBinding? hbinding
      simp [next?, degraded?, typeName?, turnTypes, hitem]

theorem next?_ofFields (nested : Json → Node) (h : level < cut) :
    (ofFields nested fields).next? turn = some n ↔
      ∃ w, Leads cut level (.obj fields) turn w ∧ nested w = n := by
  have hwell : degraded? (ofFields nested fields) = none ↔ ¬ Malformed cut level (.obj fields) := by
    rw [← Option.not_isSome_iff_eq_none, not_congr]
    exact ⟨malformed_of_isSome_degraded? _, isSome_degraded?_of_malformed _ h⟩
  rw [(decoded_ofFields nested fields).next?_eq_some, hwell, typeName?_ofFields]
  constructor
  · rintro ⟨hm, htype, w, hw, rfl⟩
    exact ⟨w, ⟨hm, htype, hw⟩, rfl⟩
  · rintro ⟨w, hleads, rfl⟩
    exact ⟨hleads.wellFormed, hleads.type, w, hleads.next, rfl⟩

/-- From a decoded node a turn leads to what it leads to from the value, decoded with a level
less. -/
theorem next?_decodeAt (h : level + levels = cut) :
    (decodeAt cut levels v).next? turn = some n ↔
      ∃ w, Leads cut level v turn w ∧ decodeAt cut (levels - 1) w = n := by
  cases levels with
  | zero =>
    constructor
    · intro hn
      cases v <;> cases turn <;> cases hn
    · rintro ⟨w, hleads, -⟩
      exact absurd hleads.lt (by omega)
  | succ levels =>
    cases v with
    | obj fields => exact next?_ofFields (decodeAt cut levels) (by omega)
    | null | bool _ | num _ | str _ | arr _ =>
      constructor
      · intro hn
        cases turn <;> cases hn
      · rintro ⟨w, hleads, -⟩
        exact absurd (.notAnObject rfl) hleads.wellFormed

/-- The way to a place among nodes goes on to what a turn leads to there. -/
theorem mem_placesAll_snoc {nodes : List Node} {index : Nat} {m : Node}
    (h : (way, m) ∈ placesAll index nodes) (hn : m.next? turn = some n) :
    (way ++ [turn], n) ∈ placesAll index nodes := by
  obtain ⟨i, k, further, hi, rfl, hm⟩ := mem_placesAll.1 h
  refine mem_placesAll.2 ⟨i, k, further ++ [turn], hi, rfl, mem_places.2 ?_⟩
  rw [along?_append, mem_places.1 hm]
  show (m.next? turn).bind some = some n
  rw [hn, Option.bind_some]

/-- Wherever a value is reached, it stands decoded among the decoded components. -/
theorem Reached.mem_placesAll (h : Reached cut components way level v) : level ≤ cut ∧
    (way, decodeAt cut (cut - level) v) ∈ placesAll 0 (components.map (decodeTo cut)) := by
  induction h with
  | @component index v hv =>
    have hnode : (components.map (decodeTo cut))[index]? = some (decodeTo cut v) := by
      rw [List.getElem?_map, hv, Option.map_some]
    refine ⟨Nat.zero_le _, Node.mem_placesAll.2 ⟨index, _, [], hnode, ?_, mem_places.2 rfl⟩⟩
    rw [Nat.zero_add]
  | inside _ hleads ih =>
    obtain ⟨hlevel, hplace⟩ := ih
    refine ⟨hleads.lt, mem_placesAll_snoc hplace ?_⟩
    exact (next?_decodeAt (Nat.add_sub_of_le hlevel)).2 ⟨_, hleads, by rw [Nat.sub_sub]⟩

/-- A way from a decoded value leads to a decoded value, and that is reached. -/
theorem Reached.along? (h : Reached cut components way level v) (hlevel : level ≤ cut)
    {further : Way} (hn : (decodeAt cut (cut - level) v).along? further = some n) :
    ∃ deeper w, Reached cut components (way ++ further) deeper w ∧
      decodeAt cut (cut - deeper) w = n := by
  -- `Reached` grows at its far end, so the induction is on the way ahead.
  induction further generalizing way level v with
  | nil =>
    cases hn
    exact ⟨level, v, by rwa [List.append_nil], rfl⟩
  | cons turn further ih =>
    obtain ⟨m, hm, hn⟩ := Option.bind_eq_some_iff.1 hn
    obtain ⟨w, hleads, rfl⟩ := (next?_decodeAt (Nat.add_sub_of_le hlevel)).1 hm
    rw [Nat.sub_sub] at hn
    obtain ⟨deeper, u, hreached, hu⟩ := ih (h.inside hleads) hleads.lt hn
    rw [List.append_assoc] at hreached
    exact ⟨deeper, u, hreached, hu⟩

/-- The places among the decoded components are where values are reached, decoded. -/
theorem mem_placesAll_decodeTo :
    (way, n) ∈ placesAll 0 (components.map (decodeTo cut)) ↔
      ∃ level v, Reached cut components way level v ∧ decodeAt cut (cut - level) v = n := by
  constructor
  · intro h
    obtain ⟨i, m, further, hi, rfl, hn⟩ := mem_placesAll.1 h
    rw [List.getElem?_map] at hi
    obtain ⟨v, hv, rfl⟩ := Option.map_eq_some_iff.1 hi
    rw [Nat.zero_add]
    exact (Reached.component hv).along? (Nat.zero_le _) (mem_places.1 hn)
  · rintro ⟨level, v, hreached, rfl⟩
    exact hreached.mem_placesAll.2

end Node

/-! ### The report -/

namespace Document

open Node (Malformed Reached)

/-- What an entry of the report names the node by. -/
def Degraded.name (e : Degraded) : Option String × Option String := (e.id, e.typeName)

/-- The report names the malformed values that are reached from the components: each once, by its
id and its type, and in document order. -/
def NamesMalformed (cut : Nat) (components : List Json) (report : List Degraded) : Prop :=
  ∃ found : List (Way × Option String × Option String),
    (found.Pairwise fun p q => p.1.address < q.1.address) ∧
    (∀ way name, (way, name) ∈ found ↔ ∃ level v, Reached cut components way level v ∧
      Malformed cut level v ∧ name = (v.string? "id", v.string? "type")) ∧
    report.map Degraded.name = found.map (·.2)

/-- The components of the parts of a document. -/
def componentsIn (parts : List (String × Json)) : List Json :=
  (Tolerant.optional Json.items? "components" parts).getD []

/-- A decoded value that is reported is named by what it has. -/
theorem name_of_degraded? {cut levels : Nat} {v : Json} {e : Degraded}
    (h : degraded? (Node.decodeAt cut levels v) = some e) :
    e.name = (v.string? "id", v.string? "type") := by
  have hid := Node.id?_decodeAt cut levels v
  have htype := Node.typeName?_decodeAt cut levels v
  revert h hid htype
  cases Node.decodeAt cut levels v with
  | unsupported id typeName =>
    rintro ⟨⟩ hid htype
    rw [← Json.string?_eq] at hid htype
    exact Prod.ext hid htype
  | _ => rintro ⟨⟩

/-- The entries of the report, each with the way to its node. -/
def entries (d : Document) : List (Way × Degraded) :=
  (Node.placesAll 0 d.components).filterMap fun p => (degraded? p.2).map (p.1, ·)

theorem map_entries (d : Document) : d.entries.map (·.2) = d.degradedNodes := by
  rw [degradedNodes, nodes, ← Node.map_placesAll 0, List.filterMap_map, entries, List.map_filterMap]
  refine congrArg (List.filterMap · _) (funext fun p => ?_)
  show ((degraded? p.2).map (p.1, ·)).map (·.2) = degraded? p.2
  cases degraded? p.2 <;> rfl

theorem mem_entries {d : Document} {way : Way} {e : Degraded} : (way, e) ∈ d.entries ↔
    ∃ n, (way, n) ∈ Node.placesAll 0 d.components ∧ degraded? n = some e := by
  rw [entries, List.mem_filterMap]
  constructor
  · rintro ⟨p, hp, he⟩
    obtain ⟨e, he, heq⟩ := Option.map_eq_some_iff.1 he
    cases heq
    exact ⟨p.2, hp, he⟩
  · rintro ⟨n, hn, he⟩
    exact ⟨_, hn, by rw [he, Option.map_some]⟩

theorem pairwise_entries (d : Document) :
    d.entries.Pairwise fun p q => p.1.address < q.1.address := by
  refine List.Pairwise.filterMap _ ?_ (Node.pairwise_placesAll 0 d.components)
  intro p q hlt e he f hf
  obtain ⟨_, _, rfl⟩ := Option.map_eq_some_iff.1 he
  obtain ⟨_, _, rfl⟩ := Option.map_eq_some_iff.1 hf
  exact hlt

/-- The report of decoded components names the malformed values that are reached. -/
theorem namesMalformed_components {cut : Nat} {components : List Json} {d : Document}
    (h : d.components = components.map (Node.decodeTo cut)) :
    NamesMalformed cut components d.degradedNodes := by
  refine ⟨d.entries.map fun p => (p.1, p.2.name), ?ordered, fun way name => ?found, ?named⟩
  case ordered => exact List.pairwise_map.2 d.pairwise_entries
  case named =>
    rw [← map_entries, List.map_map, List.map_map]
    rfl
  case found =>
    rw [List.mem_map]
    constructor
    · rintro ⟨⟨way, e⟩, hp, heq⟩
      cases heq
      obtain ⟨n, hn, he⟩ := mem_entries.1 hp
      rw [h] at hn
      obtain ⟨level, v, hreached, rfl⟩ := Node.mem_placesAll_decodeTo.1 hn
      have hlevels := Nat.add_sub_of_le hreached.mem_placesAll.1
      have hm := (Node.isSome_degraded?_decodeAt hlevels v).1 (Option.isSome_of_eq_some he)
      exact ⟨level, v, hreached, hm, name_of_degraded? he⟩
    · rintro ⟨level, v, hreached, hm, rfl⟩
      obtain ⟨hlevel, hplace⟩ := hreached.mem_placesAll
      have hsome := (Node.isSome_degraded?_decodeAt (Nat.add_sub_of_le hlevel) v).2 hm
      obtain ⟨e, he⟩ := Option.isSome_iff_exists.1 hsome
      rw [← h] at hplace
      exact ⟨(way, e), mem_entries.2 ⟨_, hplace, he⟩, Prod.ext rfl (name_of_degraded? he)⟩

theorem namesMalformed_ofParts? {cut : Nat} {parts : List (String × Json)} {d : Document}
    (h : ofParts? cut parts = some d) : NamesMalformed cut (componentsIn parts) d.degradedNodes := by
  obtain ⟨id, _, hd⟩ := Option.bind_eq_some_iff.1 h
  cases hd
  exact namesMalformed_components rfl

/-- **The report is of the malformed nodes.** Of every document that is decoded, from a value
or from a text, the report names exactly the malformed values among its components and below
them, once each and in document order. -/
theorem degradedNodes_malformed :
    (∀ v d, decode? v = some d → ∃ found, v.parts? partNames = some found ∧
      NamesMalformed Node.standardCut (componentsIn found) d.degradedNodes) ∧
    ∀ bytes d, read bytes = .ok d → ∃ found,
      Json.readRecord parts bytes.length bytes = .ok found ∧
      NamesMalformed Node.standardCut (componentsIn found) d.degradedNodes := by
  constructor
  · intro v d h
    obtain ⟨found, hfound, hd⟩ := Option.bind_eq_some_iff.1 h
    exact ⟨found, hfound, namesMalformed_ofParts? hd⟩
  · intro bytes d h
    obtain ⟨found, hfound, hd⟩ := read_ok.1 h
    exact ⟨found, hfound, namesMalformed_ofParts? hd⟩

/-- A card has every part but its children misshaped, and one of the children is of a type that
nobody knows and hides another; two lists follow. -/
def patchy : Json :=
  .obj [("id", .str "s"), ("components", .arr [
    .obj [("type", .str "card"), ("id", .ofCount 7), ("style", .bool true), ("action", .arr []),
      ("conditions", .obj []), ("children", .arr [
        .obj [("type", .str "image"), ("id", .str "a"), ("imageUrl", .bool false)],
        .ofCount 5,
        .obj [("type", .str "grid"), ("children", .arr [.obj [("type", .str "none")]])]])],
    .obj [("type", .str "list"), ("dataSource", .str "xs"),
      ("itemTemplate", .obj [("id", .str "b"), ("type", .null)])],
    .obj [("type", .str "list"), ("dataSource", .str "xs"), ("itemTemplate", .null)]])]

/-- The text of a document of one node, of a type that nobody knows. -/
def unheardOf : Json.Bytes :=
  "[\"s\",2,\"\",[\x7b\"type\":\"map\"\x7d]]".toUTF8.toList

theorem patchy_malformed :
    (∃ d found, decode? patchy = some d ∧ patchy.parts? partNames = some found ∧
      d.degradedNodes.map Degraded.name = [(some "a", some "image"), (none, none),
        (none, some "grid"), (some "b", none), (none, some "list")] ∧
      NamesMalformed Node.standardCut (componentsIn found) d.degradedNodes) ∧
    ∃ d found, read unheardOf = .ok d ∧
      Json.readRecord parts unheardOf.length unheardOf = .ok found ∧
      d.degradedNodes.map Degraded.name = [(none, some "map")] ∧
      NamesMalformed Node.standardCut (componentsIn found) d.degradedNodes := by
  have hvalue : (decode? patchy).map (·.degradedNodes.map Degraded.name) =
      some [(some "a", some "image"), (none, none), (none, some "grid"), (some "b", none),
        (none, some "list")] := by decide +kernel
  have htext : (read unheardOf).toOption.map (·.degradedNodes.map Degraded.name) =
      some [(none, some "map")] := by decide +kernel
  constructor
  · obtain ⟨d, hd, hnames⟩ := Option.map_eq_some_iff.1 hvalue
    obtain ⟨found, hfound, hmalformed⟩ := degradedNodes_malformed.1 patchy d hd
    exact ⟨d, found, hd, hfound, hnames, hmalformed⟩
  · cases hread : read unheardOf with
    | error fault =>
      rw [hread] at htext
      cases htext
    | ok d =>
      rw [hread] at htext
      obtain ⟨found, hfound, hmalformed⟩ := degradedNodes_malformed.2 unheardOf d hread
      exact ⟨d, found, rfl, hfound, Option.some.inj htext, hmalformed⟩

end Document
end Screens
