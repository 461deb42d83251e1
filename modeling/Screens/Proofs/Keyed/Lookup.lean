/-! Looking a key up in a list of entries.

What a look-up finds after entries were left out, changed or added. Nothing here asks
for an order of the keys. -/
namespace Screens.Lookup

/-- With a new key at the end no key comes twice either. -/
theorem nodup_snoc {κ : Type} {keys : List κ} (hd : keys.Nodup) {key : κ} (h : key ∉ keys) :
    (keys ++ [key]).Nodup :=
  List.nodup_append.2 ⟨hd, by simp, fun _ ha _ hb =>
    List.mem_singleton.1 hb ▸ ne_of_mem_of_not_mem ha h⟩

variable {κ α β : Type} [BEq κ] [LawfulBEq κ]

theorem mem_of_lookup {entries : List (κ × α)} {key : κ} {value : α}
    (h : entries.lookup key = some value) : (key, value) ∈ entries := by
  obtain ⟨before, after, rfl, _⟩ := List.lookup_eq_some_iff.1 h
  exact List.mem_append_right _ List.mem_cons_self

/-- A key is found if some entry has it. -/
theorem isSome_iff_mem {entries : List (κ × α)} {key : κ} :
    (entries.lookup key).isSome = true ↔ key ∈ entries.map (·.1) := by
  rw [List.lookup_isSome_iff]
  constructor
  · rintro ⟨e, he, hk⟩
    exact List.mem_map.2 ⟨e, he, (eq_of_beq hk).symm⟩
  · intro h
    obtain ⟨e, he, rfl⟩ := List.mem_map.1 h
    exact ⟨e, he, beq_self_eq_true _⟩

theorem eq_none_iff_not_mem {entries : List (κ × α)} {key : κ} :
    entries.lookup key = none ↔ key ∉ entries.map (·.1) := by
  rw [← isSome_iff_mem, Bool.not_eq_true, Option.isSome_eq_false_iff, Option.isNone_iff_eq_none]

theorem mem_keys_of_lookup {entries : List (κ × α)} {key : κ} {value : α}
    (h : entries.lookup key = some value) : key ∈ entries.map (·.1) :=
  List.mem_map_of_mem (mem_of_lookup h)

/-- Where no key comes twice, every entry is found under its key. -/
theorem lookup_of_mem {entries : List (κ × α)} (hd : (entries.map (·.1)).Nodup) {key : κ}
    {value : α} (h : (key, value) ∈ entries) : entries.lookup key = some value := by
  obtain ⟨before, after, rfl⟩ := List.append_of_mem h
  rw [List.map_append, List.map_cons, List.nodup_append] at hd
  refine List.lookup_eq_some_iff.2 ⟨before, after, rfl, fun e he => ?_⟩
  have hne : e.1 ≠ key := hd.2.2 e.1 (List.mem_map_of_mem he) key List.mem_cons_self
  exact bne_iff_ne.2 (Ne.symm hne)

/-- Leaving out a key that is not there leaves nothing out. -/
theorem filter_ne_eq_self {entries : List (κ × α)} {key : κ} (h : key ∉ entries.map (·.1)) :
    entries.filter (·.1 != key) = entries :=
  List.filter_eq_self.2 fun _ he => bne_iff_ne.2 (ne_of_mem_of_not_mem (List.mem_map_of_mem he) h)

/-- Where no key comes twice, the place of the entries does not matter. -/
theorem lookup_perm {entries others : List (κ × α)} (hd : (entries.map (·.1)).Nodup)
    (h : entries.Perm others) (key : κ) : entries.lookup key = others.lookup key := by
  have hothers : (others.map (·.1)).Nodup := (h.map _).nodup_iff.1 hd
  refine Option.ext fun value => ⟨fun hv => ?_, fun hv => ?_⟩
  · exact lookup_of_mem hothers (h.mem_iff.1 (mem_of_lookup hv))
  · exact lookup_of_mem hd (h.mem_iff.2 (mem_of_lookup hv))

theorem lookup_map (f : κ → α → β) (entries : List (κ × α)) (key : κ) :
    (entries.map fun e => (e.1, f e.1 e.2)).lookup key = (entries.lookup key).map (f key) := by
  induction entries with
  | nil => rfl
  | cons e rest ih =>
    obtain ⟨k, v⟩ := e
    rw [List.map_cons, List.lookup_cons, List.lookup_cons]
    by_cases h : key = k
    · subst h
      simp
    · simp [beq_eq_false_iff_ne.2 h, ih]

/-- The entry that is found is found again if it is kept. -/
theorem lookup_filter_of_kept {entries : List (κ × α)} {keep : κ × α → Bool} {key : κ} {value : α}
    (h : entries.lookup key = some value) (hk : keep (key, value) = true) :
    (entries.filter keep).lookup key = some value := by
  obtain ⟨before, after, rfl, hb⟩ := List.lookup_eq_some_iff.1 h
  rw [List.filter_append, List.filter_cons_of_pos hk]
  exact List.lookup_eq_some_iff.2
    ⟨_, _, rfl, fun e he => hb e (List.mem_filter.1 he).1⟩

/-- Where no key comes twice, an entry is found exactly if it was found and is kept. -/
theorem lookup_filter (keep : κ × α → Bool) {entries : List (κ × α)}
    (hd : (entries.map (·.1)).Nodup) (key : κ) :
    (entries.filter keep).lookup key = (entries.lookup key).filter fun v => keep (key, v) := by
  cases hv : entries.lookup key with
  | none =>
    refine eq_none_iff_not_mem.2 fun hm => eq_none_iff_not_mem.1 hv ?_
    exact (List.filter_sublist.map _).subset hm
  | some value =>
    cases hk : keep (key, value) with
    | true => rw [lookup_filter_of_kept hv hk, Option.filter_some, if_pos hk]
    | false =>
      have hnone : (entries.filter keep).lookup key = none := by
        refine eq_none_iff_not_mem.2 fun hm => ?_
        obtain ⟨e, he, rfl⟩ := List.mem_map.1 hm
        obtain ⟨hmem, hkeep⟩ := List.mem_filter.1 he
        rw [lookup_of_mem hd hmem] at hv
        cases hv
        rw [hk] at hkeep
        cases hkeep
      rw [hnone, Option.filter_some, if_neg (by simp [hk])]

/-- What is found among the entries that are kept was found before. -/
theorem lookup_of_lookup_filter {keep : κ × α → Bool} {entries : List (κ × α)}
    (hd : (entries.map (·.1)).Nodup) {key : κ} {value : α}
    (h : (entries.filter keep).lookup key = some value) : entries.lookup key = some value := by
  rw [lookup_filter keep hd] at h
  exact (Option.filter_eq_some_iff.1 h).1

end Screens.Lookup
