import Screens.Text.Order

/-! Values kept under text keys, in ascending order of the keys.

A list of entries is `Sorted` when its keys strictly ascend, so that no key
comes twice; a `Keyed` is such a list. `Entries.insert` keeps the order and
replaces; `List.lookup` reads back what was inserted last under a key. -/
namespace Screens

namespace Entries

open TextOrder (before)

variable {α β : Type}

/-- Strictly ascending keys. -/
def Sorted (entries : List (String × α)) : Prop :=
  entries.Pairwise (fun a b => before a.1 b.1 = true)

/-- Puts the value under the key, in the place its order gives it. -/
def insert (key : String) (value : α) : List (String × α) → List (String × α)
  | [] => [(key, value)]
  | (k, v) :: rest =>
    if key = k then (key, value) :: rest
    else if before key k then (key, value) :: (k, v) :: rest
    else (k, v) :: insert key value rest

/-- Every entry of `upper` put over those of `lower`. -/
def overlay (lower upper : List (String × α)) : List (String × α) :=
  upper.foldl (fun kept e => insert e.1 e.2 kept) lower

/-- The entries in key order; of a repeated key the last value stays. -/
def ofList (entries : List (String × α)) : List (String × α) := overlay [] entries

theorem lookup_insert_self (key : String) (value : α) (entries : List (String × α)) :
    (insert key value entries).lookup key = some value := by
  induction entries with
  | nil => simp [insert]
  | cons e rest ih =>
    obtain ⟨k, v⟩ := e
    by_cases h : key = k
    · simp [insert, h]
    · by_cases hlt : before key k = true
      · simp [insert, h, hlt]
      · simp [insert, h, hlt, List.lookup_cons, beq_eq_false_iff_ne.2 h, ih]

theorem lookup_insert_of_ne {key other : String} (value : α) (entries : List (String × α))
    (h : other ≠ key) : (insert key value entries).lookup other = entries.lookup other := by
  induction entries with
  | nil => simp [insert, List.lookup_cons, beq_eq_false_iff_ne.2 h]
  | cons e rest ih =>
    obtain ⟨k, v⟩ := e
    by_cases hk : key = k
    · subst hk
      simp [insert, List.lookup_cons, beq_eq_false_iff_ne.2 h]
    · by_cases hlt : before key k = true
      · simp [insert, hk, hlt, List.lookup_cons, beq_eq_false_iff_ne.2 h]
      · simp [insert, hk, hlt, List.lookup_cons, ih]

/-- No key comes in that was neither there nor inserted. -/
theorem mem_insert {e : String × α} {key : String} {value : α} {entries : List (String × α)}
    (h : e ∈ insert key value entries) : e = (key, value) ∨ e ∈ entries := by
  induction entries with
  | nil => simpa [insert] using h
  | cons f rest ih =>
    obtain ⟨k, v⟩ := f
    by_cases hk : key = k
    · simp only [insert, if_pos hk, List.mem_cons] at h
      exact h.imp_right (List.mem_cons_of_mem _)
    · by_cases hlt : before key k = true
      · simpa [insert, hk, hlt] using h
      · simp only [insert, if_neg hk, if_neg hlt, List.mem_cons] at h
        rcases h with h | h
        · exact .inr (h ▸ List.mem_cons_self)
        · exact (ih h).imp_right (List.mem_cons_of_mem _)

theorem sorted_insert (key : String) (value : α) {entries : List (String × α)}
    (h : Sorted entries) : Sorted (insert key value entries) := by
  induction entries with
  | nil => simp [insert, Sorted]
  | cons e rest ih =>
    obtain ⟨k, v⟩ := e
    obtain ⟨hk, hr⟩ := List.pairwise_cons.1 h
    by_cases heq : key = k
    · subst heq
      simpa [insert, Sorted] using ⟨fun a b hab => hk (a, b) hab, hr⟩
    · by_cases hlt : before key k = true
      · simp only [insert, if_neg heq, if_pos hlt]
        refine List.pairwise_cons.2 ⟨fun a ha => ?_, h⟩
        rcases List.mem_cons.1 ha with rfl | ha
        · exact hlt
        · exact TextOrder.before_trans hlt (hk a ha)
      · simp only [insert, if_neg heq, if_neg hlt]
        refine List.pairwise_cons.2 ⟨fun a ha => ?_, ih hr⟩
        rcases mem_insert ha with rfl | ha
        · exact TextOrder.before_of_not_before hlt heq
        · exact hk a ha

theorem sorted_overlay {lower : List (String × α)} (h : Sorted lower) (upper : List (String × α)) :
    Sorted (overlay lower upper) := by
  induction upper generalizing lower with
  | nil => exact h
  | cons e rest ih => exact ih (sorted_insert e.1 e.2 h)

theorem sorted_ofList (entries : List (String × α)) : Sorted (ofList entries) :=
  sorted_overlay List.Pairwise.nil entries

theorem sorted_map {entries : List (String × α)} (h : Sorted entries) (f : String → α → β) :
    Sorted (entries.map fun e => (e.1, f e.1 e.2)) := by
  simpa [Sorted, List.pairwise_map] using h

end Entries

/-- Values under distinct keys, in key order. -/
structure Keyed (α : Type) where
  entries : List (String × α)
  sorted : Entries.Sorted entries
deriving DecidableEq

namespace Keyed

variable {α β : Type}

def empty : Keyed α := ⟨[], List.Pairwise.nil⟩

instance : Inhabited (Keyed α) := ⟨empty⟩

def ofList (entries : List (String × α)) : Keyed α := ⟨_, Entries.sorted_ofList entries⟩

def get? (m : Keyed α) (key : String) : Option α := m.entries.lookup key

def insert (m : Keyed α) (key : String) (value : α) : Keyed α :=
  ⟨_, Entries.sorted_insert key value m.sorted⟩

/-- Every value of `upper` put over those of `lower`. -/
def overlay (lower upper : Keyed α) : Keyed α :=
  ⟨_, Entries.sorted_overlay lower.sorted upper.entries⟩

def size (m : Keyed α) : Nat := m.entries.length

def map (f : α → β) (m : Keyed α) : Keyed β :=
  ⟨_, Entries.sorted_map m.sorted fun _ v => f v⟩

end Keyed
end Screens
