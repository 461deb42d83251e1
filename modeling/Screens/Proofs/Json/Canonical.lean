import Screens.Json.Basic
import Screens.Proofs.Keyed.Order

/-! Canonical values.

Putting a value in canonical form twice is putting it so once. A value in canonical form
has its members in key order, and its items and the values of its members are in
canonical form themselves. -/
namespace Screens.Json

theorem canonicalItems_eq_map (items : List Json) : canonicalItems items = items.map canonical := by
  induction items with
  | nil => rfl
  | cons v rest ih => rw [canonicalItems, ih, List.map_cons]

theorem canonicalFields_eq_map (fields : List (String × Json)) :
    canonicalFields fields = fields.map fun m => (m.1, m.2.canonical) := by
  induction fields with
  | nil => rfl
  | cons m rest ih =>
    obtain ⟨k, v⟩ := m
    rw [canonicalFields, ih, List.map_cons]

/-- The value is in canonical form. -/
def Canonical (v : Json) : Prop := v.canonical = v

theorem canonical_arr {items : List Json} (h : ∀ v ∈ items, Canonical v) : Canonical (arr items) := by
  rw [Canonical, canonical, canonicalItems_eq_map, List.map_congr_left h, List.map_id']

theorem canonicalFields_of_canonical {fields : List (String × Json)}
    (h : ∀ m ∈ fields, Canonical m.2) : canonicalFields fields = fields := by
  have hid : ∀ m ∈ fields, (m.1, m.2.canonical) = m := fun m hm => by rw [h m hm]
  rw [canonicalFields_eq_map, List.map_congr_left hid, List.map_id']

theorem canonical_obj {fields : List (String × Json)} (hs : Entries.Sorted fields)
    (h : ∀ m ∈ fields, Canonical m.2) : Canonical (obj fields) := by
  rw [Canonical, canonical, canonicalFields_of_canonical h, Entries.ofList_of_sorted hs]

mutual

theorem canonical_canonical : (v : Json) → Canonical v.canonical
  | null | bool _ | num _ | str _ => rfl
  | arr items => by
    rw [canonical]
    exact canonical_arr (canonical_canonicalItems items)
  | obj fields => by
    rw [canonical]
    refine canonical_obj (Entries.sorted_ofList _) fun m hm => ?_
    exact canonical_canonicalFields fields m (Entries.mem_of_mem_ofList hm)

theorem canonical_canonicalItems : (items : List Json) → ∀ v ∈ canonicalItems items, Canonical v
  | [] => by simp [canonicalItems]
  | v :: rest => by
    rw [canonicalItems]
    exact List.forall_mem_cons.2 ⟨canonical_canonical v, canonical_canonicalItems rest⟩

theorem canonical_canonicalFields :
    (fields : List (String × Json)) → ∀ m ∈ canonicalFields fields, Canonical m.2
  | [] => by simp [canonicalFields]
  | (k, v) :: rest => by
    rw [canonicalFields]
    exact List.forall_mem_cons.2 ⟨canonical_canonical v, canonical_canonicalFields rest⟩

end

namespace Canonical

theorem items {items : List Json} (h : Canonical (arr items)) : ∀ v ∈ items, Canonical v := by
  rw [Canonical, canonical, arr.injEq] at h
  rw [← h]
  exact canonical_canonicalItems items

theorem sorted {fields : List (String × Json)} (h : Canonical (obj fields)) :
    Entries.Sorted fields := by
  rw [Canonical, canonical, obj.injEq] at h
  rw [← h]
  exact Entries.sorted_ofList _

theorem fields {fields : List (String × Json)} (h : Canonical (obj fields)) :
    ∀ m ∈ fields, Canonical m.2 := by
  rw [Canonical, canonical, obj.injEq] at h
  rw [← h]
  exact fun m hm => canonical_canonicalFields fields m (Entries.mem_of_mem_ofList hm)

/-- An object is in canonical form with members left out. -/
theorem filter {fields : List (String × Json)} (h : Canonical (obj fields))
    (keep : String × Json → Bool) : Canonical (obj (fields.filter keep)) :=
  canonical_obj (Entries.sorted_filter keep h.sorted)
    fun m hm => h.fields m (List.mem_filter.1 hm).1

end Canonical

/-! ### Members written -/

/-- The members that are present, in canonical form. -/
def written (members : List (String × Option Json)) : List (String × Json) :=
  Entries.ofList (canonicalFields (members.filterMap fun m => m.2.map (m.1, ·)))

theorem canonical_ofMembers (members : List (String × Option Json)) :
    (ofMembers members).canonical = obj (written members) := rfl

theorem lookup_present {members : List (String × Option Json)} (h : (members.map (·.1)).Nodup)
    (key : String) : (members.filterMap fun m => m.2.map (m.1, ·)).lookup key =
      (members.lookup key).join := by
  induction members with
  | nil => rfl
  | cons m rest ih =>
    obtain ⟨k, v⟩ := m
    obtain ⟨hk, hrest⟩ := List.nodup_cons.1 h
    rw [List.lookup_cons]
    by_cases heq : key = k
    · subst heq
      have hnone : rest.lookup key = none := Lookup.eq_none_iff_not_mem.2 hk
      cases v with
      | none => simp [ih hrest, hnone]
      | some v => simp
    · cases v with
      | none => simp [ih hrest, beq_eq_false_iff_ne.2 heq]
      | some v => simp [List.lookup_cons, ih hrest, beq_eq_false_iff_ne.2 heq]

theorem nodup_present {members : List (String × Option Json)} (h : (members.map (·.1)).Nodup) :
    ((members.filterMap fun m => m.2.map (m.1, ·)).map (·.1)).Nodup := by
  refine List.Sublist.nodup ?_ h
  induction members with
  | nil => exact List.Sublist.refl _
  | cons m rest ih =>
    obtain ⟨k, v⟩ := m
    have hrest := ih (List.nodup_cons.1 h).2
    cases v with
    | none => exact hrest.cons k
    | some v => exact hrest.cons_cons k

/-- Where no key comes twice, every member present is found in canonical form. -/
theorem lookup_written {members : List (String × Option Json)} (h : (members.map (·.1)).Nodup)
    (key : String) : (written members).lookup key = ((members.lookup key).join).map canonical := by
  have hkeys : ∀ fields : List (String × Json),
      (canonicalFields fields).map (·.1) = fields.map (·.1) := by
    intro fields
    rw [canonicalFields_eq_map, List.map_map]
    rfl
  rw [written, Entries.lookup_ofList (by rw [hkeys]; exact nodup_present h), canonicalFields_eq_map]
  refine (Lookup.lookup_map (fun _ => canonical) _ key).trans ?_
  rw [lookup_present h]

end Screens.Json
