import Screens.Proofs.Template.Fields
import Screens.Proofs.Template.Ways
import Screens.Template.Document

/-! Decoding what was encoded.

A node that was decoded is decoded again from its own encoding, at every level above the
cut-off and at the cut-off itself (`reencodes_decodeAt`). The nodes that are understood are
built again from their parts, in whose styles all numbers are finite as they were read
(`finiteStyles_decodeAt`); an unsupported node is written as the raw value it was decoded from,
and of one at the cut-off what is left out stays out. -/
namespace Screens.Node

open Tolerant
open Json (written)

/-- The node of an object, given how the nodes nested in it are decoded: an unsupported
one keeps the object, a container and a list have nested nodes, any other has none. -/
inductive Decoded (nested : Json → Node) (fields : List (String × Json)) : Node → Prop where
  | unsupported (id typeName : Option String) (conditions : List Condition) (reason : Unsupported) :
    Decoded nested fields (.unsupported id typeName conditions reason (.obj fields))
  | text (s : String) : Decoded nested fields (.text (commonOf fields) s)
  | button (s : String) : Decoded nested fields (.button (commonOf fields) s)
  | image (source : ImageSource) : Decoded nested fields (.image (commonOf fields) source)
  | container (kind : ContainerKind) :
    Decoded nested fields (.container (commonOf fields) kind
      (((optional Json.items? "children" fields).getD []).map nested))
  | list (source : String) (item : Json) (h : listBinding? fields = some (source, item)) :
    Decoded nested fields (.list (commonOf fields) source (nested item))
  | spacer : Decoded nested fields (.spacer (commonOf fields))
  | divider : Decoded nested fields (.divider (commonOf fields))

theorem decoded_ofFields (nested : Json → Node) (fields : List (String × Json)) :
    Decoded nested fields (ofFields nested fields) := by
  unfold ofFields
  dsimp only
  split
  · exact .unsupported ..
  · split
    · exact .container ..
    · split
      · exact .text ..
      · exact .button ..
      · split
        · exact .image ..
        · exact .unsupported ..
      · split
        · exact .list _ _ ‹_›
        · exact .unsupported ..
      · exact .spacer
      · exact .divider
      · exact .unsupported ..

/-- The items of a part are in canonical form if all parts are. -/
theorem canonical_of_mem_items {parts : List (String × Json)}
    (hc : ∀ m ∈ parts, Json.Canonical m.2) {name : String} {v : Json}
    (hv : v ∈ (optional Json.items? name parts).getD []) : Json.Canonical v := by
  rw [Tolerant.optional] at hv
  cases hl : parts.lookup name with
  | none =>
    rw [hl] at hv
    cases hv
  | some part =>
    rw [hl] at hv
    cases part with
    | arr items => exact (hc _ (Lookup.mem_of_lookup hl)).items v hv
    | null | bool _ | num _ | str _ | obj _ => cases hv

theorem canonical_of_listBinding {fields : List (String × Json)}
    (hc : ∀ m ∈ fields, Json.Canonical m.2) {source : String} {item : Json}
    (h : listBinding? fields = some (source, item)) :
    Json.Canonical item ∧ item.isNull = false := by
  unfold listBinding? at h
  split at h
  · rename_i found _ hl
    split at h
    · cases h
    · rename_i hnull
      cases h
      exact ⟨hc _ (Lookup.mem_of_lookup hl), Bool.eq_false_iff.2 hnull⟩
  · cases h

theorem encodeAll_eq_map (nodes : List Node) : encodeAll nodes = nodes.map encode := by
  induction nodes with
  | nil => rfl
  | cons n rest ih => rw [encodeAll, ih, List.map_cons]

/-! ### Numbers in the styles -/

/-- The style of the node itself. -/
def style? (n : Node) : Option Style := n.common?.bind (·.style)

/-- In the styles of the node and of all nodes below it every number is finite. -/
def FiniteStyles (n : Node) : Prop := ∀ m ∈ n.walk, ∀ s ∈ m.style?, s.Finite

theorem mem_walk_iff {n m : Node} :
    m ∈ n.walk ↔ m = n ∨ ∃ turn k, n.next? turn = some k ∧ m ∈ k.walk := by
  rw [mem_walk]
  constructor
  · rintro ⟨_ | ⟨turn, way⟩, hway⟩
    · cases hway
      exact .inl rfl
    · obtain ⟨k, hk, hway⟩ := Option.bind_eq_some_iff.1 hway
      exact .inr ⟨turn, k, hk, mem_walk.2 ⟨way, hway⟩⟩
  · rintro (rfl | ⟨turn, k, hk, hm⟩)
    · exact ⟨[], rfl⟩
    · obtain ⟨way, hway⟩ := mem_walk.1 hm
      exact ⟨turn :: way, by rw [along?, hk, Option.bind_some, hway]⟩

theorem FiniteStyles.self {n : Node} (h : n.FiniteStyles) : ∀ s ∈ n.style?, s.Finite :=
  h n (mem_walk_iff.2 (.inl rfl))

theorem FiniteStyles.inside {n m : Node} (h : n.FiniteStyles) {turn : Turn}
    (hm : n.next? turn = some m) : m.FiniteStyles :=
  fun k hk => h k (mem_walk_iff.2 (.inr ⟨turn, m, hm, hk⟩))

theorem Decoded.finite {nested : Json → Node} {fields : List (String × Json)} {n : Node}
    (h : Decoded nested fields n) : ∀ s ∈ n.style?, s.Finite := by
  have hread : ∀ s ∈ (commonOf fields).style, s.Finite := by
    intro s hs
    have hs : optional Style.decode? "style" fields = some s := hs
    obtain ⟨v, _, hv⟩ := Option.bind_eq_some_iff.1 hs
    exact Style.finite_of_decode hv
  cases h with
  | unsupported => exact fun s hs => absurd hs (Option.not_mem_none s)
  | text | button | image | container | list | spacer | divider => exact hread

/-- What is inside a decoded node is decoded from a value; if the members of the object are in
canonical form that is too, and no item template comes from nothing. -/
theorem Decoded.of_next? {nested : Json → Node} {fields : List (String × Json)} {n m : Node}
    (h : Decoded nested fields n) {turn : Turn} (hm : n.next? turn = some m) :
    ∃ v, nested v = m ∧ ((∀ m ∈ fields, Json.Canonical m.2) →
      Json.Canonical v ∧ (turn = .item → v.isNull = false)) := by
  cases h with
  | container kind =>
    cases turn with
    | item => cases hm
    | child index =>
      obtain ⟨v, hv, rfl⟩ := List.mem_map.1 (List.mem_of_getElem? hm)
      exact ⟨v, rfl, fun hc => ⟨canonical_of_mem_items hc hv, nofun⟩⟩
  | list source item hbinding =>
    cases turn with
    | child index => cases hm
    | item =>
      cases hm
      refine ⟨item, rfl, fun hc => ?_⟩
      obtain ⟨hitem, hnull⟩ := canonical_of_listBinding hc hbinding
      exact ⟨hitem, fun _ => hnull⟩
  | text | button | image | spacer | divider | unsupported => cases turn <;> cases hm

theorem finiteStyles_unsupported (id typeName : Option String) (conditions : List Condition)
    (reason : Unsupported) (raw : Json) :
    (unsupported id typeName conditions reason raw).FiniteStyles := by
  intro m hm s hs
  rw [List.mem_singleton.1 hm] at hs
  cases hs

/-- All numbers in the styles of what was decoded are finite, whatever it was decoded from. -/
theorem finiteStyles_decodeAt (cut levels : Nat) (v : Json) : (decodeAt cut levels v).FiniteStyles := by
  induction levels generalizing v with
  | zero => cases v <;> exact finiteStyles_unsupported _ _ _ _ _
  | succ levels ih =>
    cases v with
    | obj fields =>
      have hd := decoded_ofFields (decodeAt cut levels) fields
      intro m hm
      rcases mem_walk_iff.1 hm with rfl | ⟨turn, k, hk, hm⟩
      · exact hd.finite
      · obtain ⟨w, rfl, -⟩ := hd.of_next? hk
        exact ih w m hm
    | null | bool _ | num _ | str _ | arr _ => exact finiteStyles_unsupported _ _ _ _ _

/-! ### Nodes from their own parts -/

section Parts

variable {members : List (String × Option Json)} {c : Common} {typeName : String}

/-- The members are those of a node of a type that carries this. -/
structure Carries (members : List (String × Option Json)) (c : Common) (typeName : String) : Prop where
  keys : (members.map (·.1)).Nodup
  opening : opening c typeName ⊆ members
  closing : closing c ⊆ members
  finite : ∀ s ∈ c.style, s.Finite

theorem Carries.commonOf (h : Carries members c typeName) : commonOf (written members) = c := by
  obtain ⟨id, style, action, conditions⟩ := c
  show Common.mk _ _ _ _ = _
  congr 1
  · exact optional_written h.keys Json.text?_str (h.opening (by simp [Node.opening]))
  · exact optional_written_of h.keys (fun s hs => Style.decode_encode (h.finite s hs))
      (h.closing (by simp [Node.closing]))
  · exact optional_written h.keys Action.decode_encode (h.closing (by simp [Node.closing]))
  · exact sequence_written h.keys Condition.decode_encode (h.closing (by simp [Node.closing]))

theorem Carries.type (h : Carries members c typeName) :
    optional Json.text? "type" (written members) = some typeName :=
  optional_written_some h.keys Json.text?_str (h.opening (by simp [Node.opening]))

variable {nested : Json → Node}

theorem ofFields_text (h : Carries members c "text") {s : String}
    (hm : ("text", some (.str s)) ∈ members) : ofFields nested (written members) = .text c s := by
  have htext : optional Json.text? "text" (written members) = some s :=
    optional_written_some h.keys Json.text?_str hm
  simp only [ofFields, h.type, h.commonOf, htext]
  rfl

theorem ofFields_button (h : Carries members c "button") {s : String}
    (hm : ("label", some (.str s)) ∈ members) :
    ofFields nested (written members) = .button c s := by
  have hlabel : optional Json.text? "label" (written members) = some s :=
    optional_written_some h.keys Json.text?_str hm
  simp only [ofFields, h.type, h.commonOf, hlabel]
  rfl

/-- A bundled image is read as one where no remote location goes before it. -/
theorem ofFields_image (h : Carries members c "image") {source : ImageSource}
    (hm : encodeSource source ∈ members)
    (hurl : ∀ name, source = .bundled name → "imageUrl" ∉ members.map (·.1)) :
    ofFields nested (written members) = .image c source := by
  have hsource : imageSource? (written members) = some source := by
    rw [imageSource?]
    cases source with
    | remote url =>
      have hremote : optional Json.text? "imageUrl" (written members) = some url :=
        optional_written_some h.keys Json.text?_str hm
      rw [hremote]
    | bundled name =>
      have hname : optional Json.text? "imageName" (written members) = some name :=
        optional_written_some h.keys Json.text?_str hm
      rw [optional_written_none h.keys (hurl name rfl), hname]
      rfl
  simp only [ofFields, h.type, h.commonOf, hsource]
  rfl

theorem ofFields_spacer (h : Carries members c "spacer") :
    ofFields nested (written members) = .spacer c := by
  simp only [ofFields, h.type, h.commonOf]
  rfl

theorem ofFields_divider (h : Carries members c "divider") :
    ofFields nested (written members) = .divider c := by
  simp only [ofFields, h.type, h.commonOf]
  rfl

/-- A container is built again around what becomes of the nodes in it. -/
theorem ofFields_container {kind : ContainerKind} (h : Carries members c kind.name)
    {children : List Node} (hm : ("children", Json.nonempty (encodeAll children)) ∈ members) :
    ofFields nested (written members) =
      .container c kind (children.map fun n => nested n.encode.canonical) := by
  have hkind : ContainerKind.ofName? kind.name = some kind := by cases kind <;> rfl
  simp only [ofFields, h.type, h.commonOf, hkind, items_written h.keys hm, encodeAll_eq_map,
    List.map_map]
  rfl

/-- A list is built again around what becomes of its item template, if that is something. -/
theorem ofFields_list (h : Carries members c "list") {source : String} {item : Node}
    (hs : ("dataSource", some (.str source)) ∈ members)
    (hm : ("itemTemplate", some item.encode) ∈ members) (hnull : item.encode.canonical.isNull = false) :
    ofFields nested (written members) = .list c source (nested item.encode.canonical) := by
  have hbinding : listBinding? (written members) = some (source, item.encode.canonical) := by
    have hsource : optional Json.text? "dataSource" (written members) = some source :=
      optional_written_some h.keys Json.text?_str hs
    have hlookup : (written members).lookup "itemTemplate" = some item.encode.canonical := by
      rw [Json.lookup_written h.keys, Lookup.lookup_of_mem h.keys hm]
      rfl
    simp only [listBinding?, hsource, hlookup, hnull]
    rfl
  simp only [ofFields, h.type, h.commonOf, hbinding]
  rfl

end Parts

/-! ### Encoding and decoding again -/

/-- The node with those right inside it replaced. -/
def mapInside (f : Node → Node) : Node → Node
  | container c kind children => container c kind (children.map f)
  | list c source item => list c source (f item)
  | n => n

theorem mapInside_eq_self {f : Node → Node} {n : Node} :
    n.mapInside f = n ↔ ∀ turn m, n.next? turn = some m → f m = m := by
  cases n with
  | container c kind children =>
    have hmap : children.map f = children ↔ ∀ m ∈ children, f m = m := by
      simpa using List.map_inj_left (l := children) (f := f) (g := id)
    simp only [mapInside, container.injEq, true_and, hmap, List.mem_iff_getElem?]
    constructor
    · rintro h (index | _) m hm
      · exact h m ⟨index, hm⟩
      · cases hm
    · rintro h m ⟨index, hm⟩
      exact h (.child index) m hm
  | list c source item =>
    simp only [mapInside, list.injEq, true_and]
    constructor
    · rintro h (index | _) m hm <;> cases hm
      exact h
    · exact fun h => h .item item rfl
  | text | button | image | spacer | divider | unsupported =>
    refine ⟨fun _ turn m hm => ?_, fun _ => rfl⟩
    cases turn <;> cases hm

/-- A node that is supported is written as an object, from which it is built again around what
becomes of the nodes inside it. -/
theorem ofFields_written (nested : Json → Node) {n : Node} (h : Document.degraded? n = none)
    (hfinite : ∀ s ∈ n.style?, s.Finite)
    (hitem : ∀ m, n.next? .item = some m → m.encode.canonical.isNull = false) :
    ∃ fields, n.encode.canonical = .obj fields ∧
      ofFields nested fields = n.mapInside fun m => nested m.encode.canonical := by
  cases n with
  | unsupported => cases h
  | text c s =>
    exact ⟨_, rfl, ofFields_text ⟨by simp [opening, closing], by simp, by simp, hfinite⟩ (by simp)⟩
  | button c s =>
    exact ⟨_, rfl, ofFields_button ⟨by simp [opening, closing], by simp, by simp, hfinite⟩ (by simp)⟩
  | image c source =>
    refine ⟨_, rfl, ofFields_image ⟨?_, by simp, by simp, hfinite⟩ (by simp) ?_⟩
    · cases source <;> simp [opening, closing, encodeSource]
    · rintro name rfl
      simp [opening, closing, encodeSource]
  | container c kind children =>
    exact ⟨_, rfl,
      ofFields_container ⟨by simp [opening, closing], by simp, by simp, hfinite⟩ (by simp)⟩
  | list c source item =>
    exact ⟨_, rfl, ofFields_list ⟨by simp [opening, closing], by simp, by simp, hfinite⟩ (by simp)
      (by simp) (hitem item rfl)⟩
  | spacer c =>
    exact ⟨_, rfl, ofFields_spacer ⟨by simp [opening, closing], by simp, by simp, hfinite⟩⟩
  | divider c =>
    exact ⟨_, rfl, ofFields_divider ⟨by simp [opening, closing], by simp, by simp, hfinite⟩⟩

/-- Every value in canonical form gives the same node again from its encoding, which is
nothing only where the value was. -/
structure Reencodes (nested : Json → Node) : Prop where
  again : ∀ v, Json.Canonical v → nested (nested v).encode.canonical = nested v
  notNull : ∀ v, Json.Canonical v → v.isNull = false →
    (nested v).encode.canonical.isNull = false

theorem ofFields_encode {nested : Json → Node} (hn : Reencodes nested)
    {fields : List (String × Json)} (hc : Json.Canonical (.obj fields)) :
    ∃ again, (ofFields nested fields).encode.canonical = .obj again ∧
      ofFields nested again = ofFields nested fields := by
  have hd := decoded_ofFields nested fields
  cases hs : Document.degraded? (ofFields nested fields) with
  | some e =>
    -- It is written as the object it was decoded from, with all it did not understand.
    refine ⟨fields, ?_, rfl⟩
    generalize ofFields nested fields = n at hd hs ⊢
    cases hd with
    | unsupported => exact hc
    | text | button | image | container | list | spacer | divider => cases hs
  | none =>
    obtain ⟨again, he, hagain⟩ := ofFields_written nested hs hd.finite fun m hm => by
      obtain ⟨v, rfl, hv⟩ := hd.of_next? hm
      exact hn.notNull v (hv hc.fields).1 ((hv hc.fields).2 rfl)
    refine ⟨again, he, hagain.trans (mapInside_eq_self.2 fun turn m hm => ?_)⟩
    obtain ⟨v, rfl, hv⟩ := hd.of_next? hm
    exact hn.again v (hv hc.fields).1

/-! ### At the cut-off -/

/-- A text is found among the leaves exactly if it is found. -/
theorem optional_text?_leaves {fields : List (String × Json)} (hs : Entries.Sorted fields)
    (name : String) : optional Json.text? name (fields.filter fun m => m.2.isLeaf) =
      optional Json.text? name fields := by
  rw [Tolerant.optional, Tolerant.optional,
    Lookup.lookup_filter (fun m => m.2.isLeaf) (Entries.nodup_keys hs)]
  cases fields.lookup name with
  | none => rfl
  | some v => cases v <;> rfl

theorem tooDeep_leaves (cut : Nat) {fields : List (String × Json)} (hs : Entries.Sorted fields) :
    tooDeep cut (fields.filter fun m => m.2.isLeaf) = tooDeep cut fields := by
  rw [tooDeep, optional_text?_leaves hs, optional_text?_leaves hs, List.filter_filter]
  simp only [Bool.and_self]
  rfl

/-- It is enough to see to objects where all else is kept as it is. -/
theorem reencodes_of_obj {nested : Json → Node}
    (hobj : ∀ fields, Json.Canonical (.obj fields) → ∃ again,
      (nested (.obj fields)).encode.canonical = .obj again ∧
        nested (.obj again) = nested (.obj fields))
    (hother : ∀ v, v.fields? = none → (nested v).encode = v) : Reencodes nested := by
  constructor
  · intro v hc
    cases v with
    | obj fields =>
      obtain ⟨again, he, hagain⟩ := hobj fields hc
      rw [he, hagain]
    | null | bool _ | num _ | str _ | arr _ => rw [hother _ rfl, hc]
  · intro v hc hnull
    cases v with
    | obj fields =>
      obtain ⟨again, he, _⟩ := hobj fields hc
      rw [he]
      rfl
    | null | bool _ | num _ | str _ | arr _ => rw [hother _ rfl, hc, hnull]

/-- Decoding is undone by encoding, however many levels are left above the cut-off. -/
theorem reencodes_decodeAt (cut levels : Nat) : Reencodes (decodeAt cut levels) := by
  have hother : ∀ levels v, v.fields? = none → (decodeAt cut levels v).encode = v := by
    intro levels v hf
    cases v with
    | obj fields => cases hf
    | null | bool _ | num _ | str _ | arr _ => cases levels <;> rfl
  induction levels with
  | zero =>
    refine reencodes_of_obj (fun fields hc => ?_) (hother 0)
    exact ⟨fields.filter fun m => m.2.isLeaf, hc.filter _, tooDeep_leaves cut hc.sorted⟩
  | succ levels ih =>
    exact reencodes_of_obj (fun fields hc => ofFields_encode ih hc) (hother (levels + 1))

theorem decodeTo_encode (cut : Nat) {v : Json} (hc : Json.Canonical v) :
    decodeTo cut (decodeTo cut v).encode.canonical = decodeTo cut v :=
  (reencodes_decodeAt cut cut).again v hc

end Screens.Node

namespace Screens.Document

open Tolerant

theorem count?_ofCount (n : UInt64) : Json.count? (Json.ofCount n).canonical = some n := by
  show (if (0 : Int) ≤ n.toNat then some (UInt64.ofNat (Int.toNat n.toNat)) else none) = some n
  rw [if_pos (Int.natCast_nonneg _), Int.toNat_natCast, UInt64.ofNat_toNat]

/-- A document is built again from its parts if the nodes in it are. -/
theorem ofParts?_written {cut : Nat} {members : List (String × Option Json)} {d : Document}
    (hkeys : (members.map (·.1)).Nodup) (hid : ("id", some (.str d.id)) ∈ members)
    (hversion : ("version", some (.ofCount d.version)) ∈ members)
    (htitle : ("title", some (.str d.title)) ∈ members)
    (hcomponents : ("components", some (.arr (Node.encodeAll d.components))) ∈ members)
    (h : ∀ n ∈ d.components, Node.decodeTo cut n.encode.canonical = n) :
    ofParts? cut (Json.written members) = some d := by
  have hidRead : optional Json.text? "id" (Json.written members) = some d.id :=
    optional_written_some hkeys Json.text?_str hid
  have hversionRead : optional Json.count? "version" (Json.written members) = some d.version :=
    optional_written_some hkeys count?_ofCount hversion
  have hitems : optional Json.items? "components" (Json.written members) =
      some ((Node.encodeAll d.components).map Json.canonical) := by
    rw [Tolerant.optional, Json.lookup_written hkeys, Lookup.lookup_of_mem hkeys hcomponents]
    exact congrArg some (Json.canonicalItems_eq_map _)
  have hnodes : (((Node.encodeAll d.components).map Json.canonical).map (Node.decodeTo cut)) =
      d.components := by
    rw [Node.encodeAll_eq_map, List.map_map, List.map_map]
    exact (List.map_congr_left h).trans (List.map_id' d.components)
  simp only [ofParts?, hidRead, hversionRead, hitems, scalar_written hkeys htitle, Option.getD_some,
    hnodes]
  rfl

theorem encode_eq (d : Document) :
    d.encode = .ofMembers [("id", some (.str d.id)), ("version", some (.ofCount d.version)),
      ("title", some (.str d.title)),
      ("components", some (.arr (Node.encodeAll d.components)))] := rfl

/-- The parts of a value in canonical form are in it, too. -/
theorem canonical_parts {names : List String} {v : Json} (hc : Json.Canonical v)
    {parts : List (String × Json)} (h : v.parts? names = some parts) :
    ∀ m ∈ parts, Json.Canonical m.2 := by
  cases v with
  | obj fields =>
    cases h
    exact hc.fields
  | arr items =>
    obtain ⟨_, rfl⟩ : items.length ≤ names.length ∧ names.zip items = parts := by
      simpa [Json.parts?] using h
    rintro ⟨name, v⟩ hm
    exact hc.items v (List.of_mem_zip hm).2
  | null | bool _ | num _ | str _ => cases h

/-- The nodes of a decoded document are those of values in canonical form. -/
theorem components_decodeTo? {cut : Nat} {v : Json} (hc : Json.Canonical v) {d : Document}
    (h : decodeTo? cut v = some d) :
    ∀ n ∈ d.components, ∃ item, Json.Canonical item ∧ n = Node.decodeTo cut item := by
  obtain ⟨parts, hparts, h⟩ := Option.bind_eq_some_iff.1 h
  obtain ⟨id, _, h⟩ := Option.bind_eq_some_iff.1 h
  cases h
  intro n hn
  obtain ⟨item, hitem, rfl⟩ := List.mem_map.1 hn
  exact ⟨item, Node.canonical_of_mem_items (canonical_parts hc hparts) hitem, rfl⟩

theorem decodeTo?_encode {cut : Nat} {v : Json} (hc : Json.Canonical v) {d : Document}
    (h : decodeTo? cut v = some d) : decodeTo? cut d.encode.canonical = some d := by
  rw [encode_eq, Json.canonical_ofMembers]
  refine ofParts?_written (by simp) (by simp) (by simp) (by simp) (by simp) fun n hn => ?_
  obtain ⟨item, hitem, rfl⟩ := components_decodeTo? hc h n hn
  exact Node.decodeTo_encode cut hitem

/-- Encoding loses nothing of what was decoded: whatever the value was, the document, and
likewise the node, is decoded again from the value it is encoded as. Values are taken in
canonical form, as they are read. -/
theorem encode_lossless (v : Json) :
    (∀ d, decode? v.canonical = some d → decode? d.encode.canonical = some d) ∧
      Node.decode (Node.decode v.canonical).encode.canonical = Node.decode v.canonical := by
  have hc := Json.canonical_canonical v
  exact ⟨fun _ h => decodeTo?_encode hc h, Node.decodeTo_encode Node.standardCut hc⟩

/-- A document with a style of the wrong shape, an operator by another name, and a node of
a type that nobody knows. -/
def worn : Json :=
  .obj [("id", .str "home"), ("components", .arr [
    .obj [("type", .str "text"), ("label", .str "Hi"), ("style", .bool true),
      ("conditions", .arr [.obj [("field", .str "age"), ("operator", .str ">=")], .null])],
    .obj [("type", .str "map"), ("id", .str "here"), ("zoom", .ofCount 3)]])]

theorem worn_encode_lossless :
    ∃ d, decode? worn.canonical = some d ∧
      d.components =
        [.text ⟨none, none, none, [⟨"age", .greaterThanOrEqual, ""⟩]⟩ "Hi",
          .unsupported (some "here") (some "map") [] (.unknownType "map")
            (.obj [("id", .str "here"), ("type", .str "map"), ("zoom", .ofCount 3)])] ∧
      decode? d.encode.canonical = some d := by
  have hd : (decode? worn.canonical).isSome = true := by decide +kernel
  obtain ⟨d, hd⟩ := Option.isSome_iff_exists.1 hd
  have hnodes : (decode? worn.canonical).map (·.components) = some
      [.text ⟨none, none, none, [⟨"age", .greaterThanOrEqual, ""⟩]⟩ "Hi",
        .unsupported (some "here") (some "map") [] (.unknownType "map")
          (.obj [("id", .str "here"), ("type", .str "map"), ("zoom", .ofCount 3)])] := by
    decide +kernel
  rw [hd] at hnodes
  exact ⟨d, hd, Option.some.inj hnodes, (encode_lossless worn).1 d hd⟩

end Screens.Document
