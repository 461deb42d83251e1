import Screens.Proofs.Environment.Segments
import Screens.Proofs.Json.Canonical

/-! Bindings written flat and bindings written nested.

`Environment.flat` binds every leaf of an object, whatever lies there that is no object itself,
at the keys that lead to it joined by dots. Both ways a look-up comes down to the leaf along the
segments of the path (`Json.leafAt?`) and follows from there what is left of them: nested, it
walks down to the leaf (`Json.follow_leafAt?`); flat, no other part of the path is bound than
the leaf's (`Environment.get?_flat`). -/
namespace Screens

namespace Json

mutual

/-- What is no object, in an object and the objects in it, with the keys that lead there. -/
def leaves : Json → List (List (List Char) × Json)
  | obj fields => leavesOf fields
  | v => [([], v)]

def leavesOf : List (String × Json) → List (List (List Char) × Json)
  | [] => []
  | (k, v) :: rest => v.leaves.map (fun l => (k.toList :: l.1, l.2)) ++ leavesOf rest

end

mutual

/-- No key of an object has a dot, nor one of the objects in it; arrays are not looked into. -/
def undotted : Json → Bool
  | obj fields => undottedFields fields
  | _ => true

def undottedFields : List (String × Json) → Bool
  | [] => true
  | (k, v) :: rest => !k.toList.contains '.' && v.undotted && undottedFields rest

end

theorem mem_leavesOf {fields : List (String × Json)} {keys : List (List Char)} {a : Json} :
    (keys, a) ∈ leavesOf fields ↔
      ∃ m ∈ fields, ∃ below, keys = m.1.toList :: below ∧ (below, a) ∈ m.2.leaves := by
  induction fields with
  | nil => simp [leavesOf]
  | cons m rest ih =>
    obtain ⟨k, v⟩ := m
    rw [leavesOf, List.mem_append, ih, List.exists_mem_cons_iff]
    refine or_congr_left ⟨fun h => ?_, ?_⟩
    · obtain ⟨l, hl, heq⟩ := List.mem_map.1 h
      obtain ⟨rfl, rfl⟩ := Prod.mk.inj heq
      exact ⟨l.1, rfl, hl⟩
    · rintro ⟨below, rfl, hl⟩
      exact List.mem_map.2 ⟨(below, a), hl, rfl⟩

/-- A key at least leads from an object to a leaf. -/
theorem keys_ne_nil {fields : List (String × Json)} {keys : List (List Char)} {a : Json}
    (h : (keys, a) ∈ (obj fields).leaves) : keys ≠ [] := by
  obtain ⟨m, -, below, rfl, -⟩ := mem_leavesOf.1 h
  exact List.cons_ne_nil _ below

theorem undottedFields_iff {fields : List (String × Json)} :
    undottedFields fields = true ↔ ∀ m ∈ fields, '.' ∉ m.1.toList ∧ m.2.undotted = true := by
  induction fields with
  | nil => simp [undottedFields]
  | cons m rest ih =>
    obtain ⟨k, v⟩ := m
    rw [undottedFields, List.forall_mem_cons, ← ih]
    simp

/-- The keys that lead to a leaf are keys of the object. -/
theorem not_mem_of_mem_leaves {v : Json} (h : v.undotted = true) {keys : List (List Char)}
    {a : Json} (ha : (keys, a) ∈ v.leaves) : ∀ k ∈ keys, '.' ∉ k := by
  induction keys generalizing v with
  | nil => simp
  | cons k below ih =>
    cases v with
    | obj fields =>
      obtain ⟨m, hm, below, heq, hbelow⟩ := mem_leavesOf.1 ha
      obtain ⟨rfl, rfl⟩ := List.cons.inj heq
      obtain ⟨hk, hv⟩ := undottedFields_iff.1 h m hm
      exact List.forall_mem_cons.2 ⟨hk, ih hv hbelow⟩
    | _ => simp [leaves] at ha

/-! ### The leaf along some segments -/

/-- The first value along the segments that is no object, and the segments left there. -/
def leafAt? : List (List Char) → Json → Option (Json × List (List Char))
  | [], obj _ => none
  | s :: rest, obj fields => (fields.lookup (String.ofList s)).bind (leafAt? rest)
  | segs, v => some (v, segs)

/-- Keys are distinct, so the leaf along some segments is one of the leaves, and the only one
whose keys the segments start with. -/
theorem leafAt?_eq_some {v : Json} (hv : Canonical v) {segs rest : List (List Char)} {a : Json} :
    leafAt? segs v = some (a, rest) ↔ ∃ keys, (keys, a) ∈ v.leaves ∧ segs = keys ++ rest := by
  induction segs generalizing v with
  | nil =>
    cases v with
    | obj fields =>
      simp only [leafAt?, leaves, mem_leavesOf, List.nil_eq_append_iff]
      simp
    | _ => simp [leafAt?, leaves, eq_comm]
  | cons s more ih =>
    cases v with
    | obj fields =>
      have hd : (fields.map (·.1)).Nodup := Entries.nodup_keys hv.sorted
      rw [leafAt?, Option.bind_eq_some_iff]
      constructor
      · rintro ⟨w, hw, hleaf⟩
        have hmem : (String.ofList s, w) ∈ fields := Lookup.mem_of_lookup hw
        obtain ⟨keys, hkeys, rfl⟩ := (ih (hv.fields _ hmem)).1 hleaf
        refine ⟨s :: keys, mem_leavesOf.2 ⟨_, hmem, keys, ?_, hkeys⟩, rfl⟩
        rw [String.toList_ofList]
      · rintro ⟨keys, hkeys, heq⟩
        obtain ⟨m, hm, below, rfl, hbelow⟩ := mem_leavesOf.1 hkeys
        obtain ⟨rfl, rfl⟩ := List.cons.inj heq
        refine ⟨m.2, ?_, (ih (hv.fields m hm)).2 ⟨below, hbelow, rfl⟩⟩
        rw [String.ofList_toList]
        exact Lookup.lookup_of_mem hd hm
    | _ => simp [leafAt?, leaves, eq_comm]

/-- The way to the leaf is a part of the way to the value. -/
theorem follow_leafAt? {segs rest : List (List Char)} {v a : Json}
    (h : leafAt? segs v = some (a, rest)) : Path.follow v segs = Path.follow a rest := by
  induction segs generalizing v with
  | nil => cases v <;> simp_all [leafAt?]
  | cons s more ih =>
    cases v with
    | obj fields =>
      obtain ⟨w, hw, hleaf⟩ := Option.bind_eq_some_iff.1 h
      rw [← ih hleaf, Path.follow, List.foldlM_cons, Path.step, hw]
      rfl
    | _ => simp_all [leafAt?]

/-- Segments that come to no leaf go astray or end at an object. -/
theorem follow_of_leafAt?_eq_none {segs : List (List Char)} {v : Json}
    (h : leafAt? segs v = none) :
    Path.follow v segs = none ∨ ∃ members, Path.follow v segs = some (obj members) := by
  induction segs generalizing v with
  | nil =>
    cases v with
    | obj fields => exact .inr ⟨fields, rfl⟩
    | _ => simp [leafAt?] at h
  | cons s more ih =>
    cases v with
    | obj fields =>
      rw [Path.follow, List.foldlM_cons, Path.step]
      cases hw : fields.lookup (String.ofList s) with
      | none => exact .inl rfl
      | some w =>
        rw [leafAt?, hw] at h
        exact ih h
    | _ => simp [leafAt?] at h

end Json

/-! ### Looking up -/

namespace Environment

open Screens.Path

/-- Every leaf of an object bound at its keys joined by dots. -/
def flat (v : Json) : Environment :=
  ⟨.ofList (v.leaves.map fun l => (String.ofList (join l.1), l.2))⟩

variable {fields : List (String × Json)}

/-- A part of a path is bound flat at the leaf that its segments lead to. -/
theorem get?_flat (hv : Json.Canonical (.obj fields)) (hkeys : (Json.obj fields).undotted = true)
    {part : List Char} {a : Json} :
    (flat (.obj fields)).bindings.get? (String.ofList part) = some a ↔
      (segments part, a) ∈ (Json.obj fields).leaves := by
  have hleaf : ∀ {b : Json}, (flat (.obj fields)).bindings.get? (String.ofList part) = some b →
      (segments part, b) ∈ (Json.obj fields).leaves := by
    intro b hb
    obtain ⟨⟨keys, b⟩, hl, heq⟩ :=
      List.mem_map.1 (Entries.mem_of_mem_ofList (Lookup.mem_of_lookup hb))
    obtain ⟨hpart, rfl⟩ := Prod.mk.inj heq
    rw [← String.ofList_inj.1 hpart,
      segments_join (Json.not_mem_of_mem_leaves hkeys hl) (Json.keys_ne_nil hl)]
    exact hl
  refine ⟨hleaf, fun ha => ?_⟩
  have hbound : ((flat (.obj fields)).bindings.get? (String.ofList part)).isSome = true := by
    refine Lookup.isSome_iff_mem.2 (Entries.mem_keys_ofList.2 ?_)
    rw [List.map_map]
    exact List.mem_map.2 ⟨_, ha, congrArg String.ofList (join_segments part)⟩
  obtain ⟨b, hb⟩ := Option.isSome_iff_exists.1 hbound
  have hat : ∀ c, (segments part, c) ∈ (Json.obj fields).leaves →
      (Json.obj fields).leafAt? (segments part) = some (c, []) :=
    fun c hc => (Json.leafAt?_eq_some hv).2 ⟨_, hc, (List.append_nil _).symm⟩
  have hsame := (hat b (hleaf hb)).symm.trans (hat a ha)
  rw [hb, (Prod.mk.inj (Option.some.inj hsame)).1]

/-- Flat, a look-up follows from the leaf what is left of the path there. -/
theorem get_flat (hv : Json.Canonical (.obj fields)) (hkeys : (Json.obj fields).undotted = true)
    {path : String} (hpath : ∀ s ∈ segments path.toList, s ≠ []) :
    (flat (.obj fields)).get path =
      ((Json.obj fields).leafAt? (segments path.toList)).bind fun l => follow l.1 l.2 := by
  refine get_eq_follow hpath (fun a rest hleaf => ?_) fun part rest hne hsegs a => ?_
  · obtain ⟨keys, hmem, hsegs⟩ := (Json.leafAt?_eq_some hv).1 hleaf
    exact ⟨keys, Json.keys_ne_nil hmem, hsegs⟩
  · have hdots : ∀ s ∈ part, '.' ∉ s :=
      fun s hs => not_mem_of_mem_segments (hsegs ▸ List.mem_append_left rest hs)
    rw [get?_flat hv hkeys, segments_join hdots hne, Json.leafAt?_eq_some hv]
    refine ⟨fun ha => ⟨part, ha, hsegs⟩, ?_⟩
    rintro ⟨keys, ha, hkeys⟩
    rw [List.append_cancel_right (hsegs.symm.trans hkeys)]
    exact ha

/-- Where no key at the top has a dot, a look-up follows the whole path from there. -/
theorem get_ofJson (hv : Json.Canonical (.obj fields)) (hkeys : ∀ m ∈ fields, '.' ∉ m.1.toList)
    {path : String} (hpath : ∀ s ∈ segments path.toList, s ≠ []) :
    (ofJson (.obj fields)).get path = follow (.obj fields) (segments path.toList) := by
  obtain ⟨first, rest, hcut⟩ := List.exists_cons_of_ne_nil (segments_ne_nil path.toList)
  have hget : ∀ key, (ofJson (.obj fields)).bindings.get? key = fields.lookup key :=
    fun key => congrArg (List.lookup key) (Entries.ofList_of_sorted hv.sorted)
  -- Of the parts of the path only the first segment can be bound.
  have hpoint : (ofJson (.obj fields)).get path =
      ((fields.lookup (String.ofList first)).map (·, rest)).bind fun p => follow p.1 p.2 := by
    refine get_eq_follow hpath (fun v left hpoint => ?_) fun part left hne hsegs v => ?_
    · obtain ⟨w, -, heq⟩ := Option.map_eq_some_iff.1 hpoint
      obtain ⟨rfl, rfl⟩ := Prod.mk.inj heq
      exact ⟨[first], List.cons_ne_nil _ _, hcut⟩
    · rw [hget]
      constructor
      · intro hw
        have hdot := hkeys _ (Lookup.mem_of_lookup hw)
        have hdots : ∀ s ∈ part, '.' ∉ s :=
          fun s hs => not_mem_of_mem_segments (hsegs ▸ List.mem_append_left left hs)
        rw [String.toList_ofList] at hdot
        have hpart : part = [join part] :=
          (segments_join hdots hne).symm.trans (segments_of_undotted hdot)
        rw [hcut, hpart] at hsegs
        obtain ⟨rfl, rfl⟩ := List.cons.inj hsegs
        rw [hw]
        rfl
      · intro hpoint
        obtain ⟨w, hw, heq⟩ := Option.map_eq_some_iff.1 hpoint
        obtain ⟨rfl, rfl⟩ := Prod.mk.inj heq
        have hpart : part = [first] := List.append_cancel_right (hsegs.symm.trans hcut)
        rw [hpart, join_singleton, hw]
  rw [hpoint, hcut, follow, List.foldlM_cons, step]
  cases fields.lookup (String.ofList first) <;> rfl

/-- Bound flat and bound nested, values are looked up alike, at every path that does not end at
an object. -/
theorem get_flat_eq_get_ofJson (hv : Json.Canonical (.obj fields))
    (hkeys : (Json.obj fields).undotted = true) {path : String}
    (hpath : ∀ s ∈ segments path.toList, s ≠ [])
    (hobj : ∀ members, (ofJson (.obj fields)).get path ≠ some (.obj members)) :
    (flat (.obj fields)).get path = (ofJson (.obj fields)).get path := by
  have htop : ∀ m ∈ fields, '.' ∉ m.1.toList :=
    fun m hm => (Json.undottedFields_iff.1 hkeys m hm).1
  rw [get_ofJson hv htop hpath] at hobj ⊢
  rw [get_flat hv hkeys hpath]
  cases hleaf : (Json.obj fields).leafAt? (segments path.toList) with
  | some l => exact (Json.follow_leafAt? hleaf).symm
  | none =>
    rcases Json.follow_of_leafAt?_eq_none hleaf with hnone | ⟨members, hmembers⟩
    · exact hnone.symm
    · exact absurd hmembers (hobj members)

/-- Two members of an object, one with an array in it. -/
def posting : List (String × Json) :=
  [("job", .obj [("tags", .arr [.str "remote", .str "night"]), ("title", .str "Nurse")]),
    ("user", .null)]

theorem posting_flat_or_nested :
    (flat (.obj posting)).get "job.tags.1" = (ofJson (.obj posting)).get "job.tags.1" ∧
      (ofJson (.obj posting)).get "job.tags.1" = some (.str "night") := by
  have hnight : (ofJson (.obj posting)).get "job.tags.1" = some (.str "night") := by decide +kernel
  have hcanonical : Json.Canonical (.obj posting) := by
    unfold Json.Canonical
    decide +kernel
  refine ⟨get_flat_eq_get_ofJson hcanonical (by decide +kernel) (by decide +kernel) ?_, hnight⟩
  rw [hnight]
  simp

end Environment
end Screens
