import Screens.Proofs.Keyed.Lookup
import Screens.Resources.Cache

/-! What the result cache keeps.

A cache is `Kept` if no URL has two results, the sum of the sizes is right, and neither
bound is passed. Keeping one more result drops no more than it has to: of the results in
their order, the new one last, every ending that stays within the bounds is left
(`insert_longest`). So a result is there right after it was put in exactly if it is not
larger than the whole cache (`get?_insert_self`), and no other URL gets a result by that
(`get?_of_insert`). -/
namespace Screens.ResultCache

/-- The bytes of some results. -/
def weight : List (String × FetchResult) → Nat
  | [] => 0
  | e :: rest => e.2.size + weight rest

/-- Nothing of it has to be dropped. -/
def Fits (capacity : Nat) (entries : List (String × FetchResult)) : Prop :=
  weight entries ≤ capacity ∧ entries.length ≤ entryLimit

theorem weight_append (a b : List (String × FetchResult)) :
    weight (a ++ b) = weight a + weight b := by
  induction a with
  | nil => exact (Nat.zero_add _).symm
  | cons e rest ih => rw [List.cons_append, weight, ih, weight, Nat.add_assoc]

theorem size_le_weight {entries : List (String × FetchResult)} {e : String × FetchResult}
    (h : e ∈ entries) : e.2.size ≤ weight entries := by
  obtain ⟨before, after, rfl⟩ := List.append_of_mem h
  rw [weight_append]
  show e.2.size ≤ weight before + (e.2.size + weight after)
  omega

theorem weight_eq_zero {entries : List (String × FetchResult)} (h : ∀ e ∈ entries, e.2.size = 0) :
    weight entries = 0 := by
  induction entries with
  | nil => rfl
  | cons e rest ih =>
    rw [weight, h e List.mem_cons_self, ih fun other ho => h other (List.mem_cons_of_mem e ho)]

theorem fits_nil (capacity : Nat) : Fits capacity [] := ⟨Nat.zero_le _, Nat.zero_le _⟩

/-! ### Dropping the oldest -/

/-- With the sum of the sizes at hand, dropping goes on until the rest stays within the
bounds. -/
theorem evict_cons (capacity : Nat) (e : String × FetchResult)
    (rest : List (String × FetchResult)) :
    (Fits capacity (e :: rest) ∧
      evict capacity (e :: rest) (weight (e :: rest)) = ⟨e :: rest, weight (e :: rest), capacity⟩) ∨
    (¬ Fits capacity (e :: rest) ∧
      evict capacity (e :: rest) (weight (e :: rest)) = evict capacity rest (weight rest)) := by
  have hweight : weight (e :: rest) - e.2.size = weight rest := by simp [weight]
  have hfits : Fits capacity (e :: rest) ↔
      ¬ (capacity < weight (e :: rest) ∨ entryLimit < rest.length + 1) := by
    simp [Fits]
  rw [evict]
  split
  · rename_i hover
    exact .inr ⟨fun h => hfits.1 h hover, by rw [hweight]⟩
  · rename_i hover
    exact .inl ⟨hfits.2 hover, rfl⟩

theorem evict_capacity (capacity : Nat) (entries : List (String × FetchResult)) (bytes : Nat) :
    (evict capacity entries bytes).capacity = capacity := by
  induction entries generalizing bytes with
  | nil => rfl
  | cons e rest ih =>
    rw [evict]
    split
    · exact ih _
    · rfl

theorem evict_suffix (capacity : Nat) (entries : List (String × FetchResult)) (bytes : Nat) :
    (evict capacity entries bytes).entries <:+ entries := by
  induction entries generalizing bytes with
  | nil => exact List.suffix_rfl
  | cons e rest ih =>
    obtain ⟨url, result⟩ := e
    unfold evict
    split
    · exact (ih _).trans (List.suffix_cons _ _)
    · exact List.suffix_rfl

/-- What is left stays within the bounds, and its bytes are counted. -/
theorem evict_fits (capacity : Nat) (entries : List (String × FetchResult)) :
    Fits capacity (evict capacity entries (weight entries)).entries ∧
      (evict capacity entries (weight entries)).bytes =
        weight (evict capacity entries (weight entries)).entries := by
  induction entries with
  | nil => exact ⟨fits_nil capacity, rfl⟩
  | cons e rest ih =>
    rcases evict_cons capacity e rest with ⟨hfits, he⟩ | ⟨_, he⟩ <;> rw [he]
    · exact ⟨hfits, rfl⟩
    · exact ih

/-- Every ending within the bounds is left. -/
theorem evict_longest {capacity : Nat} {ending entries : List (String × FetchResult)}
    (hs : ending <:+ entries) (hfits : Fits capacity ending) :
    ending <:+ (evict capacity entries (weight entries)).entries := by
  induction entries with
  | nil => exact hs
  | cons e rest ih =>
    rcases evict_cons capacity e rest with ⟨_, he⟩ | ⟨hover, he⟩ <;> rw [he]
    · exact hs
    · rcases List.suffix_cons_iff.1 hs with rfl | hs
      · exact absurd hfits hover
      · exact ih hs

/-! ### Keeping one more -/

structure Kept (cache : ResultCache) : Prop where
  distinct : cache.order.Nodup
  bytes : cache.bytes = weight cache.entries
  fits : Fits cache.capacity cache.entries

theorem kept_empty (capacity : Nat) : Kept (.empty capacity) :=
  ⟨List.nodup_nil, rfl, fits_nil capacity⟩

/-- The results but that of a URL. -/
def others (cache : ResultCache) (url : String) : List (String × FetchResult) :=
  cache.entries.filter (·.1 != url)

theorem not_mem_others (cache : ResultCache) (url : String) :
    url ∉ (cache.others url).map (·.1) := by
  intro hm
  obtain ⟨e, he, rfl⟩ := List.mem_map.1 hm
  simpa using (List.mem_filter.1 he).2

/-- The bytes are those of a URL and those of the others. -/
theorem weight_filter {entries : List (String × FetchResult)} (hd : (entries.map (·.1)).Nodup)
    (url : String) :
    weight entries = weight (entries.filter (·.1 != url)) +
      ((entries.lookup url).map FetchResult.size).getD 0 := by
  induction entries with
  | nil => rfl
  | cons e rest ih =>
    obtain ⟨key, result⟩ := e
    obtain ⟨hkey, hrest⟩ := List.nodup_cons.1 hd
    have htail := ih hrest
    by_cases h : key = url
    · subst h
      have hnone : rest.lookup key = none := Lookup.eq_none_iff_not_mem.2 hkey
      rw [hnone] at htail
      rw [List.filter_cons, if_neg (by simp), List.lookup_cons, beq_self_eq_true]
      show result.size + weight rest = _
      rw [htail]
      exact Nat.add_comm _ _
    · rw [List.filter_cons, if_pos (by simpa using h), List.lookup_cons,
        beq_eq_false_iff_ne.2 (Ne.symm h)]
      show result.size + weight rest = result.size + weight _ + _
      rw [htail, Nat.add_assoc]

variable {cache : ResultCache} {url : String} {result : FetchResult}

/-- The result goes behind the others, and then the oldest are dropped. -/
theorem insert_eq (h : Kept cache) (url : String) (result : FetchResult) :
    cache.insert url result = evict cache.capacity (cache.others url ++ [(url, result)])
      (weight (cache.others url ++ [(url, result)])) := by
  have hbytes : cache.bytes + result.size - ((cache.get? url).map FetchResult.size).getD 0 =
      weight (cache.others url ++ [(url, result)]) := by
    have hsplit := weight_filter h.distinct url
    rw [h.bytes, hsplit, weight_append, get?, others]
    simp only [weight]
    omega
  rw [insert, hbytes]
  rfl

theorem insert_capacity (cache : ResultCache) (url : String) (result : FetchResult) :
    (cache.insert url result).capacity = cache.capacity := evict_capacity _ _ _

theorem insert_suffix (cache : ResultCache) (url : String) (result : FetchResult) :
    (cache.insert url result).entries <:+ cache.others url ++ [(url, result)] := evict_suffix _ _ _

/-- Of the results in their order, the new one last, every ending within the bounds is
left. -/
theorem insert_longest (h : Kept cache) {ending : List (String × FetchResult)}
    (hs : ending <:+ cache.others url ++ [(url, result)]) (hfits : Fits cache.capacity ending) :
    ending <:+ (cache.insert url result).entries := by
  rw [insert_eq h]
  exact evict_longest hs hfits

/-- With the new result behind the others no URL comes twice either. -/
theorem nodup_incoming (h : Kept cache) (url : String) (result : FetchResult) :
    ((cache.others url ++ [(url, result)]).map (·.1)).Nodup := by
  rw [List.map_append]
  exact Lookup.nodup_snoc ((List.filter_sublist.map _).nodup h.distinct) (not_mem_others cache url)

theorem kept_insert (h : Kept cache) (url : String) (result : FetchResult) :
    Kept (cache.insert url result) := by
  have hfits := evict_fits cache.capacity (cache.others url ++ [(url, result)])
  rw [← insert_eq h] at hfits
  refine ⟨?_, hfits.2, insert_capacity cache url result ▸ hfits.1⟩
  exact ((insert_suffix cache url result).sublist.map _).nodup (nodup_incoming h url result)

/-- Keeping a result makes no other URL known. -/
theorem get?_insert_eq_none {other : String} (hne : other ≠ url) (h : cache.get? other = none) :
    (cache.insert url result).get? other = none := by
  rw [get?, Lookup.eq_none_iff_not_mem] at h ⊢
  intro hm
  obtain ⟨e, he, rfl⟩ := List.mem_map.1 hm
  rcases List.mem_append.1 ((insert_suffix cache url result).subset he) with hold | hnew
  · exact h (List.mem_map_of_mem (List.mem_filter.1 hold).1)
  · exact hne (by rw [List.mem_singleton.1 hnew])

/-- Another URL has the result it had, if it is still there. -/
theorem get?_of_insert (h : Kept cache) {other : String} (hne : other ≠ url)
    {kept : FetchResult} (hg : (cache.insert url result).get? other = some kept) :
    cache.get? other = some kept := by
  have hmem := (insert_suffix cache url result).subset (Lookup.mem_of_lookup hg)
  rcases List.mem_append.1 hmem with hold | hnew
  · exact Lookup.lookup_of_mem h.distinct (List.mem_filter.1 hold).1
  · exact absurd (congrArg Prod.fst (List.mem_singleton.1 hnew)) hne

/-- A result is there right after it was put in, unless it is larger than the cache. -/
theorem get?_insert_self (h : Kept cache) (url : String) (result : FetchResult) :
    (cache.insert url result).get? url =
      if result.size ≤ cache.capacity then some result else none := by
  have hweight : weight [(url, result)] = result.size := by simp [weight]
  split
  · rename_i hsize
    have hfits : Fits cache.capacity [(url, result)] := ⟨hweight ▸ hsize, by simp [entryLimit]⟩
    have hleft := insert_longest h (List.suffix_append (cache.others url) _) hfits
    exact Lookup.lookup_of_mem (kept_insert h url result).distinct
      (hleft.subset List.mem_cons_self)
  · rename_i hsize
    -- Any ending with the result in it would be too large, so nothing is left.
    refine Lookup.eq_none_iff_not_mem.2 fun hm => hsize ?_
    obtain ⟨e, he, hurl⟩ := List.mem_map.1 hm
    have hfits := (kept_insert h url result).fits
    rw [insert_capacity] at hfits
    have hlast : (url, result) ∈ (cache.insert url result).entries := by
      rcases List.mem_append.1 ((insert_suffix cache url result).subset he) with hold | hnew
      · have hkey := List.mem_map_of_mem (f := (·.1)) hold
        rw [hurl] at hkey
        exact absurd hkey (not_mem_others cache url)
      · exact List.mem_singleton.1 hnew ▸ he
    calc result.size ≤ weight (cache.insert url result).entries :=
          size_le_weight hlast
      _ ≤ cache.capacity := hfits.1

end Screens.ResultCache
