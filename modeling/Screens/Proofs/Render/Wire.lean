import Screens.Proofs.Render.Measures

/-! What goes over the wire comes back.

Decoding a rendered tree is strict, so what is written has to have every part that is asked
for, in the shape that is asked for. An absent part is left out and read as absent; no part
that is there is written as `null`, which would be read so too (`Strict.nullable_written`).
The state of a resource is spread over the members of the resource, and found among them
again (`Resource.decodeState_written`).

A node is decoded to as many levels as its value has. Inside its value each node within it
has fewer (`RenderNode.depth_lt`), so the levels suffice all the way down, however deep the
tree is (`RenderTree.wire_lossless`). Only a number that is not finite would be lost, and a tree
drawn from a document that was read has none. -/
namespace Screens

/-! ### Depth of what is inside -/

namespace Json

theorem depth_le_depthItems {v : Json} {items : List Json} (h : v ∈ items) :
    v.depth ≤ depthItems items := by
  induction items with
  | nil => cases h
  | cons w rest ih =>
    rw [depthItems]
    rcases List.mem_cons.1 h with rfl | h
    · exact Nat.le_max_left _ _
    · exact Nat.le_trans (ih h) (Nat.le_max_right _ _)

theorem depth_le_depthFields {m : String × Json} {fields : List (String × Json)} (h : m ∈ fields) :
    m.2.depth ≤ depthFields fields := by
  induction fields with
  | nil => cases h
  | cons first rest ih =>
    obtain ⟨k, v⟩ := first
    rw [depthFields]
    rcases List.mem_cons.1 h with rfl | h
    · exact Nat.le_max_left _ _
    · exact Nat.le_trans (ih h) (Nat.le_max_right _ _)

end Json

/-! ### Parts -/

namespace Strict
open Json (written)

variable {α : Type} {members : List (String × Option Json)} {decode : Json → Option α}
  {encode : α → Json} {name : String}

theorem required_written (hkeys : (members.map (·.1)).Nodup)
    (hd : ∀ a, decode (encode a).canonical = some a) {a : α}
    (hm : (name, some (encode a)) ∈ members) :
    required? decode name (written members) = some a :=
  Tolerant.optional_written_some hkeys hd hm

theorem nullable_of_lookup {parts : Parts} {v : Json} (h : parts.lookup name = some v)
    (hv : v ≠ .null) : nullable? decode name parts = (decode v).map some := by
  rw [nullable?, h]
  cases v with
  | null => exact absurd rfl hv
  | _ => rfl

/-- A part that may be absent is read back if what is there can be, as that is not written as
`null`. -/
theorem nullable_written_of (hkeys : (members.map (·.1)).Nodup) {part : Option α}
    (hd : ∀ a ∈ part, decode (encode a).canonical = some a)
    (hnull : ∀ a, (encode a).canonical ≠ .null)
    (hm : (name, part.map encode) ∈ members) :
    nullable? decode name (written members) = some part := by
  have hlookup : (written members).lookup name = (part.map encode).map Json.canonical := by
    rw [Json.lookup_written hkeys, Lookup.lookup_of_mem hkeys hm]
    rfl
  cases part with
  | none =>
    rw [nullable?, hlookup]
    rfl
  | some a =>
    rw [nullable_of_lookup hlookup (hnull a), hd a rfl]
    rfl

theorem nullable_written (hkeys : (members.map (·.1)).Nodup)
    (hd : ∀ a, decode (encode a).canonical = some a)
    (hnull : ∀ a, (encode a).canonical ≠ .null) {part : Option α}
    (hm : (name, part.map encode) ∈ members) :
    nullable? decode name (written members) = some part :=
  nullable_written_of hkeys (fun a _ => hd a) hnull hm

theorem list_encoded {values : List α} (hd : ∀ a ∈ values, decode (encode a).canonical = some a) :
    list? decode (Json.arr (values.map encode)).canonical = some values := by
  have hitems : (Json.arr (values.map encode)).canonical.items? =
      some ((values.map encode).map Json.canonical) :=
    congrArg some (Json.canonicalItems_eq_map _)
  rw [list?, hitems]
  show ((values.map encode).map Json.canonical).mapM decode = some values
  clear hitems
  induction values with
  | nil => rfl
  | cons a rest ih =>
    have hrest := ih fun b hb => hd b (List.mem_cons_of_mem a hb)
    rw [List.map_cons, List.map_cons, List.mapM_cons, hd a List.mem_cons_self, hrest]
    rfl

/-- A list left out when empty is missing then, and else it is read back. -/
theorem nonempty_written (hkeys : (members.map (·.1)).Nodup) {values : List α}
    (hd : ∀ a ∈ values, decode (encode a).canonical = some a)
    (hm : (name, Json.nonempty (values.map encode)) ∈ members) :
    (values = [] ∧ (written members).lookup name = none) ∨
      ∃ v, (written members).lookup name = some v ∧ list? decode v = some values := by
  rw [Json.lookup_written hkeys, Lookup.lookup_of_mem hkeys hm, Json.nonempty]
  cases values with
  | nil => exact .inl ⟨rfl, rfl⟩
  | cons a rest => exact .inr ⟨_, rfl, list_encoded hd⟩

end Strict

open Strict

/-! ### Kinds -/

theorem Json.bool?_bool (b : Bool) : bool? (bool b).canonical = some b := rfl

theorem Json.variant?_str (s : String) : variant? (str s).canonical = some s := rfl

theorem RenderKind.decode_name (k : RenderKind) : decode? (Json.str k.name).canonical = some k := by
  cases k <;> decide

theorem DiagnosticKind.decode_name (k : DiagnosticKind) :
    decode? (Json.str k.name).canonical = some k := by
  cases k <;> decide

open Json (written text?_str bool?_bool)

/-! ### Resources -/

namespace Resource

/-- The members of a source. -/
def sourceMembers (kind location : String) : List (String × Option Json) :=
  [("kind", some (.str kind)), ("location", some (.str location))]

theorem kind_written (kind location : String) :
    required? Json.variant? "kind" (written (sourceMembers kind location)) = some kind :=
  required_written (by simp [sourceMembers]) Json.variant?_str (by simp [sourceMembers])

theorem location_written (kind location : String) :
    required? Json.text? "location" (written (sourceMembers kind location)) = some location :=
  required_written (by simp [sourceMembers]) text?_str (by simp [sourceMembers])

theorem decode_encodeSource (s : ImageSource) :
    decodeSource? (encodeSource s).canonical = some s := by
  cases s with
  | remote url =>
    show decodeSource? (.obj (written (sourceMembers "remote" url))) = _
    simp only [decodeSource?, Json.parts?, Option.bind_eq_bind, Option.bind_some, kind_written,
      location_written]
  | bundled name =>
    show decodeSource? (.obj (written (sourceMembers "bundled" name))) = _
    simp only [decodeSource?, Json.parts?, Option.bind_eq_bind, Option.bind_some, kind_written,
      location_written]

/-- The members of a resource. -/
def members (r : Resource) : List (String × Option Json) :=
  [("identity", some (.str r.identity)), ("source", some (encodeSource r.source))] ++
    (encodeState r.state).map fun m => (m.1, some m.2)

theorem encode_eq (r : Resource) : r.encode = .ofMembers r.members := by
  obtain ⟨identity, source, state⟩ := r
  cases state <;> rfl

theorem nodup_members (r : Resource) : (r.members.map (·.1)).Nodup := by
  obtain ⟨identity, source, state⟩ := r
  cases state <;> simp [members, encodeState]

theorem stateName_str (s : String) : stateName? (Json.str s).canonical = some s := rfl

/-- The state is found among the members of the resource. -/
theorem decodeState_written (r : Resource) : decodeState? (written r.members) = some r.state := by
  have hkeys := nodup_members r
  have hname {s : String} (hm : ("state", some (.str s)) ∈ r.members) :
      required? stateName? "state" (written r.members) = some s :=
    required_written hkeys stateName_str hm
  obtain ⟨identity, source, state⟩ := r
  cases state with
  | placeholder =>
    rw [decodeState?, hname (s := "placeholder") (by simp [members, encodeState])]
    rfl
  | bundled =>
    rw [decodeState?, hname (s := "bundled") (by simp [members, encodeState])]
    rfl
  | loaded bytes =>
    have hbytes : required? Json.count? "bytes"
        (written (members ⟨identity, source, .loaded bytes⟩)) = some bytes :=
      required_written hkeys Document.count?_ofCount (by simp [members, encodeState])
    rw [decodeState?, hname (s := "loaded") (by simp [members, encodeState])]
    show (required? Json.count? "bytes" _).map ResourceState.loaded = _
    rw [hbytes]
    rfl
  | failed reason =>
    have hreason : required? Json.text? "reason"
        (written (members ⟨identity, source, .failed reason⟩)) = some reason :=
      required_written hkeys text?_str (by simp [members, encodeState])
    rw [decodeState?, hname (s := "failed") (by simp [members, encodeState])]
    show (required? Json.text? "reason" _).map ResourceState.failed = _
    rw [hreason]
    rfl

theorem decode_encode (r : Resource) : decode? r.encode.canonical = some r := by
  have hkeys := nodup_members r
  have hidentity : required? Json.text? "identity" (written r.members) = some r.identity :=
    required_written hkeys text?_str (by simp [members])
  have hsource : required? decodeSource? "source" (written r.members) = some r.source :=
    required_written hkeys decode_encodeSource (by simp [members])
  rw [encode_eq, Json.canonical_ofMembers]
  simp only [decode?, Json.fields?, Option.bind_eq_bind, Option.bind_some, hidentity, hsource,
    decodeState_written]
  rfl

end Resource

/-! ### Nodes -/

theorem Json.ofMembers_ne_null (members : List (String × Option Json)) :
    (ofMembers members).canonical ≠ .null := nofun

namespace Face

/-- A face is read back from its members, whatever else there is. -/
theorem decode_written {members : List (String × Option Json)} (hkeys : (members.map (·.1)).Nodup)
    {f : Face} (hf : ∀ s ∈ f.style, s.Finite) (h : f.encode ⊆ members) :
    decode? (written members) = some f := by
  have hidentity : required? Json.text? "identity" (written members) = some f.identity :=
    required_written hkeys text?_str (h (by simp [encode]))
  have hkind : required? RenderKind.decode? "kind" (written members) = some f.kind :=
    required_written hkeys RenderKind.decode_name (h (by simp [encode]))
  have hvisible : required? Json.bool? "visible" (written members) = some f.visible :=
    required_written hkeys bool?_bool (h (by simp [encode]))
  have hid : nullable? Json.text? "sourceId" (written members) = some f.sourceId :=
    nullable_written hkeys text?_str nofun (h (by simp [encode]))
  have htype : nullable? Json.text? "sourceType" (written members) = some f.sourceType :=
    nullable_written hkeys text?_str nofun (h (by simp [encode]))
  have htext : nullable? Json.text? "text" (written members) = some f.text :=
    nullable_written hkeys text?_str nofun (h (by simp [encode]))
  have hstyle : nullable? Style.decode? "style" (written members) = some f.style :=
    nullable_written_of hkeys (fun s hs => Style.decode_encode (hf s hs))
      (fun _ => Json.ofMembers_ne_null _) (h (by simp [encode]))
  have haction : nullable? Action.decode? "action" (written members) = some f.action :=
    nullable_written hkeys Action.decode_encode (fun _ => Json.ofMembers_ne_null _)
      (h (by simp [encode]))
  have hresource : nullable? Resource.decode? "resource" (written members) = some f.resource :=
    nullable_written hkeys Resource.decode_encode
      (fun r => Resource.encode_eq r ▸ Json.ofMembers_ne_null _) (h (by simp [encode]))
  simp only [decode?, hidentity, hkind, hvisible, hid, htype, htext, hstyle, haction, hresource]
  rfl

end Face

namespace RenderNode

theorem encodeAll_eq_map (nodes : List RenderNode) : encodeAll nodes = nodes.map encode := by
  induction nodes with
  | nil => rfl
  | cons n rest ih => rw [encodeAll, ih, List.map_cons]

/-- The members of a node. -/
def members (face : Face) (children : List RenderNode) : List (String × Option Json) :=
  face.encode ++ [("children", Json.nonempty (children.map encode))]

theorem encode_eq (face : Face) (children : List RenderNode) :
    (mk face children).encode = .ofMembers (members face children) := by
  rw [encode, encodeAll_eq_map, members]

theorem nodup_members (face : Face) (children : List RenderNode) :
    ((members face children).map (·.1)).Nodup := by
  simp [members, Face.encode]

theorem children_mem_members (face : Face) (children : List RenderNode) :
    ("children", Json.nonempty (children.map encode)) ∈ members face children :=
  List.mem_append_right _ List.mem_cons_self

/-- The value of a node has more levels than that of any node right inside it. -/
theorem depth_lt {face : Face} {children : List RenderNode} {child : RenderNode}
    (h : child ∈ children) :
    child.encode.canonical.depth < (mk face children).encode.canonical.depth := by
  rw [encode_eq, Json.canonical_ofMembers]
  have hkeys := nodup_members face children
  have hitem : child.encode.canonical ∈ (children.map encode).map Json.canonical :=
    List.mem_map_of_mem (List.mem_map_of_mem h)
  have hmember : (written (members face children)).lookup "children" =
      some (.arr ((children.map encode).map Json.canonical)) := by
    have hsome : Json.nonempty (children.map encode) = some (.arr (children.map encode)) :=
      if_neg (by simpa using List.ne_nil_of_mem h)
    rw [Json.lookup_written hkeys, Lookup.lookup_of_mem hkeys (children_mem_members face children),
      hsome, ← Json.canonicalItems_eq_map]
    rfl
  calc child.encode.canonical.depth
      ≤ Json.depthItems ((children.map encode).map Json.canonical) := Json.depth_le_depthItems hitem
    _ < (Json.arr ((children.map encode).map Json.canonical)).depth := Nat.lt_succ_self _
    _ ≤ Json.depthFields (written (members face children)) :=
        Json.depth_le_depthFields (Lookup.mem_of_lookup hmember)
    _ < (Json.obj (written (members face children))).depth := Nat.lt_succ_self _

mutual

/-- A node is decoded again, if there is a level for each of its value. -/
theorem decodeWithin_encode : (n : RenderNode) → (∀ face ∈ n.faces, ∀ s ∈ face.style, s.Finite) →
    (levels : Nat) → n.encode.canonical.depth < levels →
      decodeWithin? levels n.encode.canonical = some n
  | mk face children, _, 0, h => absurd h (Nat.not_lt_zero _)
  | mk face children, hf, levels + 1, h => by
    obtain ⟨hown, hbelow⟩ := List.forall_mem_cons.1 hf
    have hinside : ∀ child ∈ children,
        decodeWithin? levels child.encode.canonical = some child := by
      refine decodeWithin_encodeAll children hbelow levels fun child hc => ?_
      exact Nat.lt_of_lt_of_le (depth_lt hc) (Nat.le_of_lt_succ h)
    have hkeys := nodup_members face children
    have hface := Face.decode_written hkeys hown (List.subset_append_left _ _)
    rw [encode_eq, Json.canonical_ofMembers, decodeWithin?]
    simp only [Json.parts?, Option.bind_eq_bind, Option.bind_some, hface]
    rcases nonempty_written hkeys hinside (children_mem_members face children) with
      ⟨rfl, hnone⟩ | ⟨v, hv, hlist⟩
    · rw [hnone]
      rfl
    · rw [hv]
      dsimp only
      rw [hlist]
      rfl

theorem decodeWithin_encodeAll : (nodes : List RenderNode) →
    (∀ face ∈ facesOf nodes, ∀ s ∈ face.style, s.Finite) → (levels : Nat) →
      (∀ n ∈ nodes, n.encode.canonical.depth < levels) →
        ∀ n ∈ nodes, decodeWithin? levels n.encode.canonical = some n
  | [], _, _, _ => nofun
  | n :: rest, hf, levels, h => by
    obtain ⟨hown, hothers⟩ := List.forall_mem_append.1 hf
    obtain ⟨hn, hrest⟩ := List.forall_mem_cons.1 h
    exact List.forall_mem_cons.2
      ⟨decodeWithin_encode n hown levels hn, decodeWithin_encodeAll rest hothers levels hrest⟩

end

theorem decode_encode {n : RenderNode} (hf : ∀ face ∈ n.faces, ∀ s ∈ face.style, s.Finite) :
    decode? n.encode.canonical = some n :=
  decodeWithin_encode n hf _ (Nat.lt_succ_self _)

end RenderNode

/-! ### Trees -/

namespace Diagnostic

/-- The members of a diagnostic. -/
def members (d : Diagnostic) : List (String × Option Json) :=
  [("identity", some (.str d.identity)), ("kind", some (.str d.kind.name)),
    ("detail", some (.str d.detail))]

theorem encode_eq (d : Diagnostic) : d.encode = .ofMembers d.members := rfl

theorem decode_encode (d : Diagnostic) : decode? d.encode.canonical = some d := by
  have hkeys : (d.members.map (·.1)).Nodup := by simp [members]
  have hidentity : required? Json.text? "identity" (written d.members) = some d.identity :=
    required_written hkeys text?_str (by simp [members])
  have hkind : required? DiagnosticKind.decode? "kind" (written d.members) = some d.kind :=
    required_written hkeys DiagnosticKind.decode_name (by simp [members])
  have hdetail : required? Json.text? "detail" (written d.members) = some d.detail :=
    required_written hkeys text?_str (by simp [members])
  rw [encode_eq, Json.canonical_ofMembers]
  simp only [decode?, Json.parts?, Option.bind_eq_bind, Option.bind_some, hidentity, hkind, hdetail]
  rfl

end Diagnostic

namespace Reachable

/-- The members of a listed action. -/
def members (r : Reachable) : List (String × Option Json) :=
  [("identity", some (.str r.identity)), ("action", some r.action.encode)]

theorem encode_eq (r : Reachable) : r.encode = .ofMembers r.members := rfl

theorem decode_encode (r : Reachable) : decode? r.encode.canonical = some r := by
  have hkeys : (r.members.map (·.1)).Nodup := by simp [members]
  have hidentity : required? Json.text? "identity" (written r.members) = some r.identity :=
    required_written hkeys text?_str (by simp [members])
  have haction : required? Action.decode? "action" (written r.members) = some r.action :=
    required_written hkeys Action.decode_encode (by simp [members])
  rw [encode_eq, Json.canonical_ofMembers]
  simp only [decode?, Json.parts?, Option.bind_eq_bind, Option.bind_some, hidentity, haction]
  rfl

end Reachable

namespace RenderTree

/-- The members of a tree. -/
def members (tree : RenderTree) : List (String × Option Json) :=
  [("screenId", some (.str tree.screenId)), ("version", some (.ofCount tree.version)),
    ("title", some (.str tree.title)), ("nodes", some (.arr (tree.nodes.map RenderNode.encode))),
    ("actions", some (.arr (tree.actions.map Reachable.encode))),
    ("resources", some (.arr (tree.resources.map Resource.encode))),
    ("diagnostics", Json.nonempty (tree.diagnostics.map Diagnostic.encode))]

theorem encode_eq (tree : RenderTree) : tree.encode = .ofMembers tree.members := by
  rw [encode, RenderNode.encodeAll_eq_map, members]

/-- A list of a tree is read back. -/
theorem list_written {α : Type} {decode : Json → Option α} {encode : α → Json}
    {values : List α} (hd : ∀ a ∈ values, decode (encode a).canonical = some a) {tree : RenderTree}
    {name : String} (hm : (name, some (.arr (values.map encode))) ∈ tree.members) :
    required? (list? decode) name (written tree.members) = some values := by
  rw [required?, Json.lookup_written (by simp [members]), Lookup.lookup_of_mem (by simp [members]) hm]
  exact list_encoded hd

theorem decode_encode {tree : RenderTree} (hf : tree.FiniteStyles) :
    decode? tree.encode.canonical = some tree := by
  have hkeys : (tree.members.map (·.1)).Nodup := by simp [members]
  have hscreen : required? Json.text? "screenId" (written tree.members) = some tree.screenId :=
    required_written hkeys text?_str (by simp [members])
  have hversion : required? Json.count? "version" (written tree.members) = some tree.version :=
    required_written hkeys Document.count?_ofCount (by simp [members])
  have htitle : required? Json.text? "title" (written tree.members) = some tree.title :=
    required_written hkeys text?_str (by simp [members])
  have hnodes : required? (list? RenderNode.decode?) "nodes" (written tree.members) =
      some tree.nodes := by
    refine list_written (fun n hn => RenderNode.decode_encode fun face hface => ?_) (by simp [members])
    exact forall_mem_styles.1 hf face (RenderNode.mem_facesOf.2 ⟨n, hn, hface⟩)
  have hactions : required? (list? Reachable.decode?) "actions" (written tree.members) =
      some tree.actions := list_written (fun a _ => Reachable.decode_encode a) (by simp [members])
  have hresources : required? (list? Resource.decode?) "resources" (written tree.members) =
      some tree.resources := list_written (fun r _ => Resource.decode_encode r) (by simp [members])
  have hdiagnostics : ("diagnostics", Json.nonempty (tree.diagnostics.map Diagnostic.encode)) ∈
      tree.members := by simp [members]
  rw [encode_eq, Json.canonical_ofMembers, decode?]
  simp only [Json.parts?, Option.bind_eq_bind, Option.bind_some, hscreen, hversion, htitle, hnodes,
    hactions, hresources]
  rcases nonempty_written hkeys (fun d _ => Diagnostic.decode_encode d) hdiagnostics with
    ⟨hnil, hnone⟩ | ⟨v, hv, hlist⟩
  · rw [hnone]
    show some { tree with diagnostics := [] } = some tree
    rw [← hnil]
  · rw [hv]
    dsimp only
    rw [hlist]
    rfl

/-- Decoding a tree from its wire form gives the tree again, whatever its nodes, lists and
diagnostics are, if the numbers in its styles are finite. They are in every tree that a document
that was read is drawn to, whatever becomes of its resources after that. -/
theorem wire_lossless :
    (∀ tree : RenderTree, tree.FiniteStyles → decode? tree.encode.canonical = some tree) ∧
      ∀ v d, Document.decode? v = some d → ∀ limit env f,
        let tree := (d.render limit env).mapResources f
        decode? tree.encode.canonical = some tree :=
  ⟨fun _ => decode_encode, fun _ d h limit env f => by
    have hf := (Received.drawn h limit env).finiteStyles
    rw [FiniteStyles, ← styles_mapResources f] at hf
    exact decode_encode hf⟩

/-- A card, drawn small, around a portrait that could not be had; its caption is hidden. -/
def portrait : RenderTree :=
  let card : Face := { Evaluate.blank "card" .card with
    style := some ⟨some ⟨some (.finite (.zero true)), some "bold"⟩, none, some "", none, none,
      some (.finite (.zero false)), none, none⟩ }
  let image : Face := { Evaluate.blank "card/0" .image with
    style := some ⟨none, none, none, some ⟨none, none, none, none⟩, none, none, none, none⟩
    resource := some ⟨"card/0", .remote "http://h/a.png", .failed ""⟩ }
  let caption : Face := { Evaluate.blank "card/1" .text with visible := false, sourceId := some "" }
  .ofNodes "home" 7 "" [.mk card [.mk image [], .mk caption []]] [⟨"card/1", .listCycle, "x"⟩]

/-- A document of one image, drawn wide. -/
def poster : Json :=
  .obj [("id", .str "poster"), ("components", .arr [.obj [("type", .str "image"),
    ("imageUrl", .str "http://h/a.png"), ("style", .obj [("width", .ofCount 300)])]])]

theorem portrait_comes_back :
    portrait.FiniteStyles ∧ decode? portrait.encode.canonical = some portrait ∧
      ∃ d, Document.decode? poster = some d ∧
        let tree := (d.render 3 .empty).mapResources ({ · with state := .loaded 9 })
        tree.resources = [⟨"$/0", .remote "http://h/a.png", .loaded 9⟩] ∧
          decode? tree.encode.canonical = some tree := by
  have hfinite : portrait.FiniteStyles := by
    unfold FiniteStyles Style.Finite
    decide +kernel
  have hread : (Document.decode? poster).map (fun d =>
      ((d.render 3 .empty).mapResources ({ · with state := .loaded 9 })).resources) =
        some [⟨"$/0", .remote "http://h/a.png", .loaded 9⟩] := by decide +kernel
  obtain ⟨d, hd, hresources⟩ := Option.map_eq_some_iff.1 hread
  exact ⟨hfinite, wire_lossless.1 portrait hfinite, d, hd, hresources,
    wire_lossless.2 poster d hd 3 .empty _⟩

end RenderTree
end Screens
