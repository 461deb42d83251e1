import Screens.Proofs.Json.Canonical
import Screens.Template.Node

/-! What is decoded again from the parts of a node that were written.

A part is found under its name, in canonical form, so decoding it gives back what was
written as soon as decoding one encoded value does (`optional_written`). An action, a condition
and a style whose numbers are finite are their own encoding decoded. -/
namespace Screens

namespace Tolerant
open Json (written)

variable {α : Type} {members : List (String × Option Json)} {decode : Json → Option α}
  {encode : α → Json} {name : String}

/-- A part that may be absent is read back if what is there can be. -/
theorem optional_written_of (hkeys : (members.map (·.1)).Nodup) {part : Option α}
    (hd : ∀ a ∈ part, decode (encode a).canonical = some a)
    (hm : (name, part.map encode) ∈ members) :
    optional decode name (written members) = part := by
  rw [optional, Json.lookup_written hkeys, Lookup.lookup_of_mem hkeys hm]
  cases part with
  | none => rfl
  | some a => exact hd a rfl

theorem optional_written (hkeys : (members.map (·.1)).Nodup)
    (hd : ∀ a, decode (encode a).canonical = some a) {part : Option α}
    (hm : (name, part.map encode) ∈ members) :
    optional decode name (written members) = part :=
  optional_written_of hkeys (fun a _ => hd a) hm

/-- A part that is there is read back. -/
theorem optional_written_some (hkeys : (members.map (·.1)).Nodup)
    (hd : ∀ a, decode (encode a).canonical = some a) {a : α}
    (hm : (name, some (encode a)) ∈ members) :
    optional decode name (written members) = some a := by
  rw [optional, Json.lookup_written hkeys, Lookup.lookup_of_mem hkeys hm]
  exact hd a

theorem optional_written_none (hkeys : (members.map (·.1)).Nodup)
    (hm : name ∉ members.map (·.1)) : optional decode name (written members) = none := by
  rw [optional, Json.lookup_written hkeys, Lookup.eq_none_iff_not_mem.2 hm]
  rfl

theorem scalar_written (hkeys : (members.map (·.1)).Nodup) {s : String}
    (hm : (name, some (.str s)) ∈ members) : scalar name (written members) = s := by
  rw [scalar, optional, Json.lookup_written hkeys, Lookup.lookup_of_mem hkeys hm]
  rfl

/-- The items of a list left out when empty. -/
theorem items_written (hkeys : (members.map (·.1)).Nodup) {items : List Json}
    (hm : (name, Json.nonempty items) ∈ members) :
    (optional Json.items? name (written members)).getD [] = items.map Json.canonical := by
  rw [optional, Json.lookup_written hkeys, Lookup.lookup_of_mem hkeys hm, Json.nonempty]
  cases items with
  | nil => rfl
  | cons v rest =>
    show Json.canonicalItems (v :: rest) = _
    exact Json.canonicalItems_eq_map _

theorem sequence_written (hkeys : (members.map (·.1)).Nodup)
    (hd : ∀ a, decode (encode a).canonical = some a) {values : List α}
    (hm : (name, Json.nonempty (values.map encode)) ∈ members) :
    sequence decode name (written members) = values := by
  rw [sequence, items_written hkeys hm]
  clear hm
  induction values with
  | nil => rfl
  | cons a rest ih =>
    rw [List.map_cons, List.map_cons, List.filterMap_cons_some (hd a), ih]

end Tolerant

open Tolerant

theorem Json.text?_str (s : String) : text? (str s).canonical = some s := rfl

open Json (text?_str)

/-! ### Styles -/

/-- The number has a wire form. -/
def Numeral.isFinite : Numeral → Bool
  | finite _ => true
  | infinite _ | notANumber => false

theorem Numeral.ofJson?_encode {x : Numeral} (h : x.isFinite = true) :
    ofJson? x.encode.canonical = some x := by
  cases x with
  | finite d => rfl
  | infinite | notANumber => cases h

def Font.numbers (f : Font) : List Numeral := f.size.toList

def Padding.numbers (p : Padding) : List Numeral :=
  p.top.toList ++ p.bottom.toList ++ p.leading.toList ++ p.trailing.toList

/-- All numbers in a style. -/
def Style.numbers (s : Style) : List Numeral :=
  s.font.toList.flatMap Font.numbers ++ s.padding.toList.flatMap Padding.numbers ++
    s.cornerRadius.toList ++ s.width.toList ++ s.height.toList ++ s.spacing.toList

def Style.Finite (s : Style) : Prop := ∀ x ∈ s.numbers, x.isFinite = true

/-- A number that may be absent is read back if it is finite. -/
theorem number_written {members : List (String × Option Json)} {name : String}
    (hkeys : (members.map (·.1)).Nodup) {part : Option Numeral}
    (h : ∀ x ∈ part, x.isFinite = true) (hm : (name, part.map Numeral.encode) ∈ members) :
    optional Numeral.ofJson? name (Json.written members) = part :=
  optional_written_of hkeys (fun x hx => Numeral.ofJson?_encode (h x hx)) hm

theorem Font.decode_encode {f : Font} (h : ∀ x ∈ f.numbers, x.isFinite = true) :
    decode? f.encode.canonical = some f := by
  obtain ⟨size, weight⟩ := f
  show some (Font.mk _ _) = some _
  congr 2
  · exact number_written (by simp) (fun x hx => h x (by simpa [numbers] using hx)) (by simp)
  · exact optional_written (by simp) text?_str (by simp)

theorem Padding.decode_encode {p : Padding} (h : ∀ x ∈ p.numbers, x.isFinite = true) :
    decode? p.encode.canonical = some p := by
  obtain ⟨top, bottom, leading, trailing⟩ := p
  simp only [numbers, List.mem_append, Option.mem_toList, or_imp, forall_and] at h
  obtain ⟨⟨⟨htop, hbottom⟩, hleading⟩, htrailing⟩ := h
  show some (Padding.mk _ _ _ _) = some _
  congr 2
  · exact number_written (by simp) htop (by simp)
  · exact number_written (by simp) hbottom (by simp)
  · exact number_written (by simp) hleading (by simp)
  · exact number_written (by simp) htrailing (by simp)

theorem Style.decode_encode {s : Style} (h : s.Finite) : decode? s.encode.canonical = some s := by
  obtain ⟨font, color, backgroundColor, padding, cornerRadius, width, height, spacing⟩ := s
  simp only [Finite, numbers, List.mem_append, List.mem_flatMap, Option.mem_toList, or_imp,
    forall_and, forall_exists_index, and_imp] at h
  obtain ⟨⟨⟨⟨⟨hfont, hpadding⟩, hcorner⟩, hwidth⟩, hheight⟩, hspacing⟩ := h
  show some (Style.mk _ _ _ _ _ _ _ _) = some _
  congr 2
  · exact optional_written_of (by simp)
      (fun f hf => Font.decode_encode fun x hx => hfont x f hf hx) (by simp)
  · exact optional_written (by simp) text?_str (by simp)
  · exact optional_written (by simp) text?_str (by simp)
  · exact optional_written_of (by simp)
      (fun p hp => Padding.decode_encode fun x hx => hpadding x p hp hx) (by simp)
  · exact number_written (by simp) hcorner (by simp)
  · exact number_written (by simp) hwidth (by simp)
  · exact number_written (by simp) hheight (by simp)
  · exact number_written (by simp) hspacing (by simp)

/-- A number that is read is finite. -/
theorem isFinite_of_mem_optional {parts : Parts} {name : String} {x : Numeral}
    (h : x ∈ optional Numeral.ofJson? name parts) : x.isFinite = true := by
  obtain ⟨v, _, hv⟩ := Option.bind_eq_some_iff.1 h
  obtain ⟨d, _, rfl⟩ := Option.map_eq_some_iff.1 hv
  rfl

theorem Font.finite_of_decode {v : Json} {f : Font} (h : decode? v = some f) :
    ∀ x ∈ f.numbers, x.isFinite = true := by
  obtain ⟨parts, _, rfl⟩ := Option.map_eq_some_iff.1 h
  exact fun x hx => isFinite_of_mem_optional (Option.mem_toList.1 hx)

theorem Padding.finite_of_decode {v : Json} {p : Padding} (h : decode? v = some p) :
    ∀ x ∈ p.numbers, x.isFinite = true := by
  obtain ⟨parts, _, rfl⟩ := Option.map_eq_some_iff.1 h
  intro x hx
  simp only [numbers, List.mem_append, Option.mem_toList] at hx
  rcases hx with ((hx | hx) | hx) | hx <;> exact isFinite_of_mem_optional hx

theorem Style.finite_of_decode {v : Json} {s : Style} (h : decode? v = some s) : s.Finite := by
  obtain ⟨parts, _, rfl⟩ := Option.map_eq_some_iff.1 h
  intro x hx
  simp only [numbers, List.mem_append, List.mem_flatMap, Option.mem_toList] at hx
  rcases hx with ((((⟨f, hf, hx⟩ | ⟨p, hp, hx⟩) | hx) | hx) | hx) | hx
  · obtain ⟨w, _, hw⟩ := Option.bind_eq_some_iff.1 hf
    exact Font.finite_of_decode hw x hx
  · obtain ⟨w, _, hw⟩ := Option.bind_eq_some_iff.1 hp
    exact Padding.finite_of_decode hw x hx
  all_goals exact isFinite_of_mem_optional hx

/-! ### Conditions -/

theorem Operator.decode_encode (o : Operator) :
    decode? (Json.str o.name).canonical = some o := by cases o <;> decide

theorem Condition.encode_eq (c : Condition) :
    c.encode = .ofMembers [("field", some (.str c.field)),
      ("operator", some (.str c.operator.name)), ("value", some (.str c.value))] := rfl

theorem Condition.decode_encode (c : Condition) : decode? c.encode.canonical = some c := by
  rw [encode_eq, Json.canonical_ofMembers]
  show some (Condition.mk _ (Option.getD _ Operator.unknown) _) = some c
  obtain ⟨field, operator, value⟩ := c
  congr 2
  · exact scalar_written (by simp) (by simp)
  · show Option.getD _ Operator.unknown = Option.getD (some operator) Operator.unknown
    refine congrArg (Option.getD · Operator.unknown) ?_
    exact optional_written_some (by simp) Operator.decode_encode (by simp)
  · exact scalar_written (by simp) (by simp)

/-! ### Actions -/

namespace Action

theorem canonical_parameters (parameters : Keyed String) :
    Json.Canonical (.obj (parameters.map Json.str).entries) := by
  refine Json.canonical_obj (parameters.map Json.str).sorted fun m hm => ?_
  obtain ⟨e, _, rfl⟩ := List.mem_map.1 hm
  rfl

/-- The members parameters are written as, none where there are none. -/
theorem parameters_written {members : List (String × Option Json)} {name : String}
    (hkeys : (members.map (·.1)).Nodup) {parameters : Keyed String}
    (hm : (name, encodeParameters parameters) ∈ members) :
    (Tolerant.optional Json.fields? name (Json.written members)).getD [] =
      (parameters.map Json.str).entries := by
  rw [Tolerant.optional, Json.lookup_written hkeys, Lookup.lookup_of_mem hkeys hm, encodeParameters]
  cases hempty : parameters.entries.isEmpty with
  | true =>
    rw [List.isEmpty_iff] at hempty
    show [] = parameters.entries.map _
    rw [hempty]
    rfl
  | false =>
    show (Json.fields? (Json.canonical (.obj (parameters.map Json.str).entries))).getD [] = _
    rw [canonical_parameters]
    rfl

theorem scalars_written {members : List (String × Option Json)} {name : String}
    (hkeys : (members.map (·.1)).Nodup) {parameters : Keyed String}
    (hm : (name, encodeParameters parameters) ∈ members) :
    scalars name (Json.written members) = parameters := by
  have htexts : ∀ entries : List (String × String),
      (entries.map fun e => (e.1, Json.str e.2)).filterMap
        (fun m => m.2.scalar?.map (m.1, ·)) = entries := by
    intro entries
    induction entries with
    | nil => rfl
    | cons e rest ih => exact congrArg (e :: ·) ih
  rw [scalars, parameters_written hkeys hm]
  show Keyed.ofList ((parameters.entries.map fun e => (e.1, Json.str e.2)).filterMap _) = _
  rw [htexts, Keyed.ofList_entries]

theorem decode_encode (a : Action) : decode? a.encode.canonical = some a := by
  obtain ⟨kind, target, parameters⟩ := a
  rw [encode, Json.canonical_ofMembers]
  have hkind : Tolerant.optional Json.text? "type" (Json.written [("type", some (.str kind)),
      ("target", some (.str target)), ("parameters", encodeParameters parameters)]) = some kind :=
    optional_written_some (by simp) text?_str (by simp)
  show (Tolerant.optional Json.text? "type" _).bind _ = _
  rw [hkind]
  show some (Action.mk _ _ _) = some _
  congr 2
  · exact scalar_written (by simp) (by simp)
  · exact scalars_written (by simp) (by simp)

end Action
end Screens
