import Screens.Proofs.Json.Records
import Screens.Proofs.Template.Printed

/-! Damaged documents.

A text is read as a document field by field, so what is read might depend on where in the text a
fault stands. It does not: a document is found in a value exactly if the value is undamaged
(`undamaged_iff`), and then what it has for a field is what is given there (`lookup_gathered`),
decoded on its own. -/
namespace Screens.Document

/-- The document is there: an object with an id, which is a text, and no field of a document twice,
or an array of an id and at most three more. -/
inductive Undamaged : Json → Prop where
  | object {fields : List (String × Json)} {id : String} (hid : fields.lookup "id" = some (.str id))
      (hcount : ∀ name ∈ ["id", "version", "title", "components"],
        (fields.map (·.1)).count name ≤ 1) : Undamaged (.obj fields)
  | array (id : String) {others : List Json} (hlength : others.length ≤ 3) :
    Undamaged (.arr (.str id :: others))

/-- A field of a document as it is written: the member of this name, or the item in its place. -/
def given (name : String) : Json → Option Json
  | .obj fields => fields.lookup name
  | .arr items => (["id", "version", "title", "components"].zip items).lookup name
  | _ => none

theorem lookup_canonicalFields (fields : List (String × Json)) (name : String) :
    (Json.canonicalFields fields).lookup name = (fields.lookup name).map Json.canonical := by
  rw [Json.canonicalFields_eq_map]
  exact Lookup.lookup_map (fun _ v => v.canonical) fields name

/-- What is found is what is given. -/
theorem lookup_gathered {v : Json} {found : List (String × Json)} (h : v.gathered parts = some found)
    {name : String} (hname : name ∈ ["id", "version", "title", "components"]) :
    found.lookup name = (given name v).map Json.canonical := by
  cases v with
  | obj fields =>
    obtain ⟨-, -, -, rfl⟩ := Json.gather_eq_some.1 h
    rw [List.nil_append, lookup_canonicalFields, Json.lookup_known hname]
    rfl
  | arr items =>
    obtain ⟨-, -, rfl⟩ := Json.align_eq_some.1 h
    rw [lookup_canonicalFields]
    rfl
  | null | bool _ | num _ | str _ => cases h

theorem lacks_eq_false {found : List (String × Json)} :
    Json.lacks parts found = false ↔ (found.lookup "id").isSome = true := by
  simp [Json.lacks, parts]

/-- Only the id has to be of a kind. -/
theorem id_or_any {part : Json.Part} (h : part ∈ parts) :
    part.name = "id" ∧ part.kind = .text ∨ part.kind = .any := by
  revert part
  decide

theorem undamaged_object {fields : List (String × Json)} :
    (∃ found, Json.gather parts [] fields = some found ∧ Json.lacks parts found = false) ↔
      Undamaged (.obj fields) := by
  constructor
  · rintro ⟨found, hfound, hlacks⟩
    have hlookup : found.lookup "id" = (fields.lookup "id").map Json.canonical :=
      lookup_gathered (v := .obj fields) hfound (by decide)
    obtain ⟨hkinds, hnodup, -⟩ := Json.gather_eq_some.1 hfound
    rw [lacks_eq_false, hlookup, Option.isSome_map] at hlacks
    obtain ⟨v, hv⟩ := Option.isSome_iff_exists.1 hlacks
    obtain ⟨id, rfl⟩ := hkinds _ (Lookup.mem_of_lookup hv) ⟨"id", .text, true⟩ rfl
    exact .object hv (Json.nodup_known.1 hnodup)
  · intro h
    cases h with
    | @object _ id hlookup hcount =>
      have hnodup : ((Json.known parts fields).map (·.1)).Nodup := Json.nodup_known.2 hcount
      have hid : (Json.known parts fields).lookup "id" = some (.str id) := by
        rw [Json.lookup_known (by decide), hlookup]
      refine ⟨_, Json.gather_eq_some.2 ⟨fun m hm part hpart => ?_, hnodup, by simp, rfl⟩, ?_⟩
      · have hname : m.1 = part.name := (beq_iff_eq.1 (List.find?_some hpart :)).symm
        rcases id_or_any (List.mem_of_find?_eq_some hpart) with ⟨hpartId, htext⟩ | hany
        · -- The id comes once, so this one is the text.
          have hmem : m ∈ Json.known parts fields :=
            List.mem_filter.2 ⟨hm, by rw [Json.isPart, hpart]; rfl⟩
          have hfound := Lookup.lookup_of_mem hnodup hmem
          rw [hname, hpartId, hid] at hfound
          rw [htext, ← Option.some.inj hfound]
          exact ⟨id, rfl⟩
        · rw [hany]
          trivial
      · rw [lacks_eq_false, List.nil_append, lookup_canonicalFields, hid]
        rfl

theorem undamaged_array {items : List Json} :
    (∃ found, Json.align parts items = some found ∧ Json.lacks parts found = false) ↔
      Undamaged (.arr items) := by
  constructor
  · rintro ⟨found, hfound, hlacks⟩
    obtain ⟨hlength, hkinds, rfl⟩ := Json.align_eq_some.1 hfound
    cases items with
    | nil => cases hlacks
    | cons v others =>
      obtain ⟨id, rfl⟩ := hkinds (⟨"id", .text, true⟩, v) List.mem_cons_self
      exact .array id (Nat.le_of_succ_le_succ hlength)
  · intro h
    cases h with
    | array id hlength =>
      refine ⟨_, Json.align_eq_some.2 ⟨Nat.succ_le_succ hlength, fun m hm => ?_, rfl⟩, rfl⟩
      rcases List.mem_cons.1 hm with rfl | hm
      · exact ⟨id, rfl⟩
      · have hany : ∀ part ∈ parts.tail, part.kind = .any := by decide
        rw [hany m.1 (List.of_mem_zip hm).1]
        trivial

theorem undamaged_iff {v : Json} :
    (∃ found, v.gathered parts = some found ∧ Json.lacks parts found = false) ↔ Undamaged v := by
  cases v with
  | obj fields => exact undamaged_object
  | arr items => exact undamaged_array
  | null | bool _ | num _ | str _ => exact iff_of_false nofun nofun

/-! ### What the fields stand for -/

theorem count?_canonical (v : Json) : v.canonical.count? = v.count? := by
  cases v <;> rfl

theorem scalar?_canonical (v : Json) : v.canonical.scalar? = v.scalar? := by
  cases v <;> rfl

theorem items?_canonical (v : Json) :
    v.canonical.items? = v.items?.map fun items => items.map Json.canonical := by
  cases v with
  | arr items =>
    rw [Json.canonical, Json.canonicalItems_eq_map]
    rfl
  | null | bool _ | num _ | str _ | obj _ => rfl

/-- A field that is decoded alike in its canonical form is decoded as it is given. -/
theorem optional_gathered {α : Type} {decode : Json → Option α} {v : Json}
    {found : List (String × Json)} (h : v.gathered parts = some found)
    (hdecode : ∀ w, decode w.canonical = decode w) {name : String}
    (hname : name ∈ ["id", "version", "title", "components"]) :
    Tolerant.optional decode name found = (given name v).bind decode := by
  rw [Tolerant.optional, lookup_gathered h hname, Option.bind_map]
  exact congrArg _ (funext hdecode)

theorem Undamaged.given_id {v : Json} (h : Undamaged v) : ∃ id, given "id" v = some (.str id) := by
  cases h with
  | object hid => exact ⟨_, hid⟩
  | array id => exact ⟨id, rfl⟩

/-- The document of the fields that are given. -/
theorem ofParts?_gathered (cut : Nat) {v : Json} {found : List (String × Json)}
    (h : v.gathered parts = some found) {id : String} (hid : given "id" v = some (.str id)) :
    ofParts? cut found = some
      { id
        version := ((given "version" v).bind Json.count?).getD 1
        title := ((given "title" v).bind Json.scalar?).getD ""
        components := (((given "components" v).bind Json.items?).getD []).map
          fun item => Node.decodeTo cut item.canonical } := by
  have htext : Tolerant.optional Json.text? "id" found = some id := by
    rw [Tolerant.optional, lookup_gathered h (by decide), hid]
    rfl
  have hcomponents : (Tolerant.optional Json.items? "components" found).getD [] =
      (((given "components" v).bind Json.items?).getD []).map Json.canonical := by
    rw [Tolerant.optional, lookup_gathered h (by decide)]
    cases hgiven : given "components" v with
    | none => rfl
    | some w =>
      rw [Option.map_some, Option.bind_some, Option.bind_some, items?_canonical]
      cases w.items? <;> rfl
  unfold ofParts?
  rw [htext, hcomponents, Tolerant.scalar, optional_gathered h scalar?_canonical (by decide),
    optional_gathered h count?_canonical (by decide)]
  dsimp only [bind, Option.bind, pure]
  rw [List.map_map]
  rfl

/-- **Only damage to a document itself fails it.** A text that is a value, nested however deep, is
read as a document exactly if the value is undamaged. The document has the id; of the other fields,
whatever they are, it has what they stand for, and of the components each on its own. -/
theorem read_iff_undamaged {room : Nat} {bytes : Json.Bytes} {v : Json}
    (h : Json.readWritten room bytes = .ok v) :
    ((∃ d, read bytes = .ok d) ↔ Undamaged v) ∧
    ∀ d, read bytes = .ok d →
      given "id" v = some (.str d.id) ∧
      d.version = ((given "version" v).bind Json.count?).getD 1 ∧
      d.title = ((given "title" v).bind Json.scalar?).getD "" ∧
      d.components = (((given "components" v).bind Json.items?).getD []).map
        fun item => Node.decode item.canonical := by
  have hrecord := Json.readRecord_of_value h (Nat.min_le_right _ _) parts
  have hfound (found : List (String × Json)) :
      Json.readRecord parts bytes.length bytes = .ok found ↔
        v.gathered parts = some found ∧ Json.lacks parts found = false := by
    rw [← Json.Reader.toOption_eq_some, hrecord, Option.filter_eq_some_iff, Bool.not_eq_true']
  constructor
  · constructor
    · rintro ⟨d, hd⟩
      obtain ⟨found, hparts, -⟩ := read_ok.1 hd
      exact undamaged_iff.1 ⟨found, (hfound found).1 hparts⟩
    · intro hundamaged
      obtain ⟨found, hparts⟩ := undamaged_iff.2 hundamaged
      obtain ⟨id, hid⟩ := hundamaged.given_id
      exact ⟨_, read_ok.2 ⟨found, (hfound found).2 hparts, ofParts?_gathered _ hparts.1 hid⟩⟩
  · intro d hd
    obtain ⟨found, hparts, hd⟩ := read_ok.1 hd
    obtain ⟨id, hid⟩ := (undamaged_iff.1 ⟨found, (hfound found).1 hparts⟩).given_id
    rw [ofParts?_gathered _ ((hfound found).1 hparts).1 hid] at hd
    cases hd
    exact ⟨hid, rfl, rfl, rfl⟩

/-- A document with a version that is a text, a title that is none, a field of no use that comes
twice, and an item that is no node. -/
def shabby : String :=
  "\x7b\"version\": \"2\", \"title\": [], \"old\": \x7b\"id\": [[]]\x7d, \"id\": \"home\", " ++
    "\"old\": null, \"components\": [\x7b\x7d, false]\x7d"

def shabbyValue : Json :=
  .obj [("version", .str "2"), ("title", .arr []), ("old", .obj [("id", .arr [.arr []])]),
    ("id", .str "home"), ("old", .null), ("components", .arr [.obj [], .bool false])]

/-- A document with the greatest version there is, and a number for a title. -/
def terse : String :=
  "\x7b\"title\": 7.5, \"version\": 18446744073709551615, \"id\": \"home\"\x7d"

def terseValue : Json :=
  .obj [("title", .num (.decimal ((Double.ofDecimal? false 75 (-1)).getD (.zero false)))),
    ("version", .ofCount 18446744073709551615), ("id", .str "home")]

/-- The first is read, with two nodes; the second is, with its version and title; a document with
two ids is not, though they are the same. -/
theorem shabby_read :
    Json.readWritten 4 shabby.toUTF8.toList = .ok shabbyValue ∧
    (∃ d, read shabby.toUTF8.toList = .ok d ∧ d.id = "home" ∧ d.version = 1 ∧ d.title = "" ∧
      d.components = [Node.decode (.obj []), Node.decode (.bool false)]) ∧
    Json.readWritten 1 terse.toUTF8.toList = .ok terseValue ∧
    (∃ d, read terse.toUTF8.toList = .ok d ∧ d.id = "home" ∧ d.version = 18446744073709551615 ∧
      d.title = "7.5" ∧ d.components = []) ∧
    Json.readWritten 1 "\x7b\"id\": \"a\", \"id\": \"a\"\x7d".toUTF8.toList =
      .ok (.obj [("id", .str "a"), ("id", .str "a")]) ∧
    ¬ ∃ d, read "\x7b\"id\": \"a\", \"id\": \"a\"\x7d".toUTF8.toList = .ok d := by
  have hshabby : Json.readWritten 4 shabby.toUTF8.toList = .ok shabbyValue := by decide +kernel
  have hterse : Json.readWritten 1 terse.toUTF8.toList = .ok terseValue := by decide +kernel
  have htwice : Json.readWritten 1 "\x7b\"id\": \"a\", \"id\": \"a\"\x7d".toUTF8.toList =
      .ok (.obj [("id", .str "a"), ("id", .str "a")]) := by decide +kernel
  obtain ⟨hread, hfields⟩ := read_iff_undamaged hshabby
  obtain ⟨d, hd⟩ := hread.2 (.object rfl (by decide))
  obtain ⟨hid, hversion, htitle, hcomponents⟩ := hfields d hd
  obtain ⟨e, he⟩ := (read_iff_undamaged hterse).1.2 (.object rfl (by decide))
  obtain ⟨hidTerse, hversionTerse, htitleTerse, hcomponentsTerse⟩ :=
    (read_iff_undamaged hterse).2 e he
  refine ⟨hshabby, ⟨d, hd, ?_, hversion, htitle, hcomponents⟩, hterse,
    ⟨e, he, ?_, hversionTerse, htitleTerse.trans (by decide +kernel), hcomponentsTerse⟩, htwice, ?_⟩
  · exact (Json.str.inj (Option.some.inj hid)).symm
  · exact (Json.str.inj (Option.some.inj hidTerse)).symm
  · rw [(read_iff_undamaged htwice).1]
    intro hundamaged
    cases hundamaged with
    | object hid hcount => exact absurd (hcount "id" (by decide)) (by decide)

end Screens.Document
