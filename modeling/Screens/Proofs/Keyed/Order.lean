import Screens.Keyed
import Screens.Proofs.Keyed.Lookup

/-! Entries in key order.

Sorted entries have no key twice and are what they are put in order as. Entries with
distinct keys keep every value when they are put in order. -/
namespace Screens.Entries

open TextOrder (before)

variable {α : Type}

theorem sorted_filter (keep : String × α → Bool) {entries : List (String × α)}
    (h : Sorted entries) : Sorted (entries.filter keep) := List.Pairwise.filter keep h

theorem nodup_keys {entries : List (String × α)} (h : Sorted entries) :
    (entries.map (·.1)).Nodup := by
  refine List.pairwise_map.2 (h.imp fun hlt heq => ?_)
  rw [heq, TextOrder.before_self] at hlt
  cases hlt

/-- The new entry stands beside those of the other keys. -/
theorem insert_perm (key : String) (value : α) {entries : List (String × α)} (h : Sorted entries) :
    (insert key value entries).Perm ((key, value) :: entries.filter (·.1 != key)) := by
  induction entries with
  | nil => exact .refl _
  | cons e rest ih =>
    obtain ⟨k, v⟩ := e
    obtain ⟨hk, hrest⟩ := List.pairwise_cons.1 h
    by_cases heq : key = k
    · subst heq
      have hnot : key ∉ rest.map (·.1) := (List.nodup_cons.1 (nodup_keys h)).1
      rw [insert, if_pos rfl, List.filter_cons, if_neg (by simp), Lookup.filter_ne_eq_self hnot]
    · rw [List.filter_cons, if_pos (bne_iff_ne.2 (Ne.symm heq)), insert, if_neg heq]
      split
      · rename_i hlt
        have hnot : key ∉ rest.map (·.1) := by
          intro hm
          obtain ⟨e, he, rfl⟩ := List.mem_map.1 hm
          have := TextOrder.before_trans hlt (hk e he)
          rw [TextOrder.before_self] at this
          cases this
        rw [Lookup.filter_ne_eq_self hnot]
      · exact ((ih hrest).cons _).trans (.swap _ _ _)

/-- An entry that was taken out is put back in its place. -/
theorem insert_filter {key : String} {value : α} {entries : List (String × α)} (h : Sorted entries)
    (hvalue : entries.lookup key = some value) :
    insert key value (entries.filter (·.1 != key)) = entries := by
  induction entries with
  | nil => cases hvalue
  | cons e rest ih =>
    obtain ⟨k, v⟩ := e
    obtain ⟨hk, hrest⟩ := List.pairwise_cons.1 h
    by_cases heq : key = k
    · subst heq
      rw [List.lookup_cons_self] at hvalue
      cases hvalue
      have hnot : key ∉ rest.map (·.1) := (List.nodup_cons.1 (nodup_keys h)).1
      rw [List.filter_cons, if_neg (by simp), Lookup.filter_ne_eq_self hnot]
      cases rest with
      | nil => rfl
      | cons f rest =>
        have hne : key ≠ f.1 := fun hf => hnot (hf ▸ List.mem_cons_self)
        rw [insert, if_neg hne, if_pos (hk f List.mem_cons_self)]
    · rw [List.lookup_cons, beq_eq_false_iff_ne.2 heq] at hvalue
      have hlt := hk _ (Lookup.mem_of_lookup hvalue)
      have hnot : before key k ≠ true := by
        intro hbefore
        have := TextOrder.before_trans hlt hbefore
        rw [TextOrder.before_self] at this
        cases this
      rw [List.filter_cons, if_pos (bne_iff_ne.2 (Ne.symm heq)), insert, if_neg heq, if_neg hnot,
        ih hrest hvalue]

theorem mem_overlay {e : String × α} {lower upper : List (String × α)} (h : e ∈ overlay lower upper) :
    e ∈ lower ∨ e ∈ upper := by
  induction upper generalizing lower with
  | nil => exact .inl h
  | cons f rest ih =>
    rcases ih h with h | h
    · rcases mem_insert h with rfl | h
      · exact .inr List.mem_cons_self
      · exact .inl h
    · exact .inr (List.mem_cons_of_mem f h)

theorem mem_of_mem_ofList {e : String × α} {entries : List (String × α)} (h : e ∈ ofList entries) :
    e ∈ entries := (mem_overlay h).resolve_left (List.not_mem_nil)

theorem mem_keys_insert {k key : String} {value : α} {entries : List (String × α)} :
    k ∈ (insert key value entries).map (·.1) ↔ k = key ∨ k ∈ entries.map (·.1) := by
  by_cases h : k = key
  · subst h
    simp [← Lookup.isSome_iff_mem, lookup_insert_self]
  · rw [← Lookup.isSome_iff_mem, lookup_insert_of_ne value entries h, Lookup.isSome_iff_mem]
    simp [h]

theorem mem_keys_overlay {k : String} {lower upper : List (String × α)} :
    k ∈ (overlay lower upper).map (·.1) ↔ k ∈ lower.map (·.1) ∨ k ∈ upper.map (·.1) := by
  induction upper generalizing lower with
  | nil => simp [overlay]
  | cons e rest ih =>
    show k ∈ (overlay (insert e.1 e.2 lower) rest).map (·.1) ↔ _
    rw [ih, mem_keys_insert, List.map_cons, List.mem_cons, or_assoc, or_left_comm]

/-- Put in order, entries have the keys they had. -/
theorem mem_keys_ofList {k : String} {entries : List (String × α)} :
    k ∈ (ofList entries).map (·.1) ↔ k ∈ entries.map (·.1) := by
  rw [ofList, mem_keys_overlay]
  simp

/-- What comes after all keys is put at the end. -/
theorem insert_after {entries : List (String × α)} {key : String} {value : α}
    (h : ∀ e ∈ entries, before e.1 key = true) :
    insert key value entries = entries ++ [(key, value)] := by
  induction entries with
  | nil => rfl
  | cons e rest ih =>
    obtain ⟨k, v⟩ := e
    have hk : before k key = true := h (k, v) List.mem_cons_self
    have hne : key ≠ k := by
      rintro rfl
      rw [TextOrder.before_self] at hk
      cases hk
    have hlt : ¬ before key k = true := by
      intro hlt
      have := TextOrder.before_trans hk hlt
      rw [TextOrder.before_self] at this
      cases this
    rw [insert, if_neg hne, if_neg hlt, ih fun f hf => h f (List.mem_cons_of_mem _ hf)]
    rfl

theorem overlay_after {lower upper : List (String × α)} (h : Sorted (lower ++ upper)) :
    overlay lower upper = lower ++ upper := by
  induction upper generalizing lower with
  | nil => exact (List.append_nil lower).symm
  | cons e rest ih =>
    have hbefore : ∀ f ∈ lower, before f.1 e.1 = true := fun f hf =>
      (List.pairwise_append.1 h).2.2 f hf e List.mem_cons_self
    have happend : lower ++ e :: rest = (lower ++ [e]) ++ rest := by simp
    rw [happend] at h ⊢
    show overlay (insert e.1 e.2 lower) rest = _
    rw [insert_after hbefore, ih h]

/-- Sorted entries are already in order. -/
theorem ofList_of_sorted {entries : List (String × α)} (h : Sorted entries) :
    ofList entries = entries := overlay_after h

theorem lookup_overlay {lower upper : List (String × α)} (h : (upper.map (·.1)).Nodup) (key : String) :
    (overlay lower upper).lookup key = (upper.lookup key).or (lower.lookup key) := by
  induction upper generalizing lower with
  | nil => rfl
  | cons e rest ih =>
    obtain ⟨k, v⟩ := e
    obtain ⟨hk, hrest⟩ := List.nodup_cons.1 h
    show (overlay (insert k v lower) rest).lookup key = _
    rw [ih hrest, List.lookup_cons]
    by_cases heq : key = k
    · subst heq
      rw [Lookup.eq_none_iff_not_mem.2 hk, lookup_insert_self, beq_self_eq_true]
      rfl
    · rw [lookup_insert_of_ne v lower heq, beq_eq_false_iff_ne.2 heq]

theorem lookup_ofList {entries : List (String × α)} (h : (entries.map (·.1)).Nodup) (key : String) :
    (ofList entries).lookup key = entries.lookup key := by
  rw [ofList, lookup_overlay h]
  exact Option.or_none

end Screens.Entries

namespace Screens.Keyed

theorem ofList_entries {α : Type} (m : Keyed α) : ofList m.entries = m := by
  obtain ⟨entries, sorted⟩ := m
  simp only [ofList, Entries.ofList_of_sorted sorted]

end Screens.Keyed
