import Screens.Proofs.Environment.Items

/-! Paths as lists of segments.

A path is the join of its segments, and segments without dots are those of their join. So a
path starts with what joins the first of its segments, one or more (`Environment.mem_starts_iff`),
and a walk follows the segments one after the other (`Path.walk_join`). Where of all the parts of
a path one at most is bound, that is the whole of a look-up (`Environment.get_eq_follow`). -/
namespace Screens

namespace Path

/-- The path of some segments: a dot between any two. -/
def join (segs : List (List Char)) : List Char := ['.'].intercalate segs

@[simp] theorem join_singleton (s : List Char) : join [s] = s := List.intercalate_singleton

theorem segments_eq_splitOn (path : List Char) : segments path = path.splitOn '.' := by
  induction path with
  | nil => rfl
  | cons c rest ih =>
    rw [List.splitOn_cons_eq_if_modifyHead, ← ih]
    by_cases hc : c = '.'
    · subst hc
      rfl
    · rw [if_neg (by simpa using hc)]
      obtain ⟨first, more, hrest⟩ := List.exists_cons_of_ne_nil (List.splitOn_ne_nil '.' rest)
      rw [← ih] at hrest
      simp [segments, hrest]

theorem segments_ne_nil (path : List Char) : segments path ≠ [] := by
  rw [segments_eq_splitOn]
  exact List.splitOn_ne_nil '.' path

theorem join_segments (path : List Char) : join (segments path) = path := by
  rw [segments_eq_splitOn]
  exact List.intercalate_splitOn '.'

theorem segments_join {segs : List (List Char)} (h : ∀ s ∈ segs, '.' ∉ s) (hne : segs ≠ []) :
    segments (join segs) = segs := by
  rw [segments_eq_splitOn]
  exact List.splitOn_intercalate '.' h hne

theorem segments_append (part rest : List Char) :
    segments (part ++ '.' :: rest) = segments part ++ segments rest := by
  simp only [segments_eq_splitOn, List.splitOn_append_cons_self]

theorem segments_of_undotted {path : List Char} (h : '.' ∉ path) : segments path = [path] := by
  rw [segments_eq_splitOn]
  exact List.splitOn_eq_singleton h

/-- A segment ends before the next dot. -/
theorem not_mem_of_mem_segments {path s : List Char} (h : s ∈ segments path) : '.' ∉ s := by
  induction path generalizing s with
  | nil =>
    rw [segments, List.mem_singleton] at h
    subst h
    exact List.not_mem_nil
  | cons c rest ih =>
    rw [segments_eq_splitOn, List.splitOn_cons_eq_if_modifyHead, ← segments_eq_splitOn] at h
    by_cases hc : c = '.'
    · rw [if_pos (by simpa using hc)] at h
      rcases List.mem_cons.1 h with rfl | h
      · exact List.not_mem_nil
      · exact ih h
    · rw [if_neg (by simpa using hc)] at h
      obtain ⟨first, more, hfirst⟩ := List.exists_cons_of_ne_nil (segments_ne_nil rest)
      rw [hfirst, List.modifyHead_cons, List.mem_cons] at h
      rcases h with rfl | h
      · have hdot : '.' ∉ first := ih (hfirst ▸ List.mem_cons_self)
        exact List.not_mem_cons_of_ne_of_not_mem (Ne.symm hc) hdot
      · exact ih (hfirst ▸ List.mem_cons_of_mem first h)

theorem join_append {segs more : List (List Char)} (hs : segs ≠ []) (hm : more ≠ []) :
    join (segs ++ more) = join segs ++ '.' :: join more := by
  induction segs with
  | nil => exact absurd rfl hs
  | cons s rest ih =>
    cases rest with
    | nil => simp [join, List.intercalate_cons_of_ne_nil hm]
    | cons t rest =>
      have hrest := ih (List.cons_ne_nil t rest)
      simp only [join, List.cons_append, List.intercalate_cons_cons] at hrest ⊢
      rw [hrest]
      simp

/-- The value at the end of the segments, `null` counted as absent. -/
def follow (root : Json) (segs : List (List Char)) : Option Json :=
  (segs.foldlM step root).bind present

theorem walk_join (root : Json) {segs : List (List Char)} (h : ∀ s ∈ segs, s ≠ [] ∧ '.' ∉ s) :
    walk root (join segs) = follow root segs := by
  cases segs with
  | nil => rfl
  | cons s more =>
    -- The join is not empty, so it is the segments that are walked.
    obtain ⟨c, cs, hs⟩ := List.exists_cons_of_ne_nil (h s List.mem_cons_self).1
    have hne : (join (s :: more)).isEmpty = false := by
      subst hs
      cases more with
      | nil => simp [join]
      | cons t more => simp [join, List.intercalate_cons_cons]
    rw [walk, hne, segments_join (fun s hs => (h s hs).2) (List.cons_ne_nil s more)]
    rfl

end Path

namespace Environment

open Screens.Path

/-- A path starts with what joins its first segments, all of them or fewer. -/
theorem mem_starts_iff {path part rest : List Char} :
    (part, rest) ∈ starts path ↔ ∃ segs more, segments path = segs ++ more ∧ segs ≠ [] ∧
      part = join segs ∧ rest = join more := by
  rw [mem_starts]
  constructor
  · rintro (⟨rfl, rfl⟩ | rfl)
    · exact ⟨segments part, [], (List.append_nil _).symm, segments_ne_nil part,
        (join_segments part).symm, rfl⟩
    · exact ⟨segments part, segments rest, segments_append part rest, segments_ne_nil part,
        (join_segments part).symm, (join_segments rest).symm⟩
  · rintro ⟨segs, more, hsegs, hne, rfl, rfl⟩
    have hpath : path = join (segs ++ more) := by rw [← hsegs, join_segments]
    cases more with
    | nil =>
      rw [List.append_nil] at hpath
      exact .inl ⟨hpath.symm, rfl⟩
    | cons s more => exact .inr (hpath.trans (join_append hne (List.cons_ne_nil s more)))

/-- Where only one part of a path is bound, or none, a look-up follows from the value there the
segments after it. -/
theorem get_eq_follow {env : Environment} {path : String}
    (hpath : ∀ s ∈ segments path.toList, s ≠ []) {point : Option (Json × List (List Char))}
    (hcut : ∀ v rest, point = some (v, rest) →
      ∃ part, part ≠ [] ∧ segments path.toList = part ++ rest)
    (hbound : ∀ part rest, part ≠ [] → segments path.toList = part ++ rest → ∀ v,
      env.bindings.get? (String.ofList (join part)) = some v ↔ point = some (v, rest)) :
    env.get path = point.bind fun p => follow p.1 p.2 := by
  have hfound : ∀ p ∈ starts path.toList, ∀ v, env.bindings.get? (String.ofList p.1) = some v →
      ∃ rest, point = some (v, rest) ∧ p.2 = join rest := by
    rintro ⟨_, _⟩ hp v hv
    obtain ⟨part, rest, hsegs, hne, rfl, rfl⟩ := mem_starts_iff.1 hp
    exact ⟨rest, (hbound part rest hne hsegs v).1 hv, rfl⟩
  rw [get, bindingPoint?_eq]
  cases hs : (starts path.toList).findSome? fun s =>
      (env.bindings.get? (String.ofList s.1)).map (·, s.2) with
  | none =>
    cases point with
    | none => rfl
    | some p =>
      obtain ⟨part, hne, hsegs⟩ := hcut p.1 p.2 rfl
      have hmem := mem_starts_iff.2 ⟨part, p.2, hsegs, hne, rfl, rfl⟩
      have hnone := List.findSome?_eq_none_iff.1 hs _ hmem
      rw [(hbound part p.2 hne hsegs p.1).2 rfl] at hnone
      cases hnone
  | some found =>
    obtain ⟨p, hp, hmap⟩ := List.exists_of_findSome?_eq_some hs
    obtain ⟨v, hv, rfl⟩ := Option.map_eq_some_iff.1 hmap
    obtain ⟨rest, rfl, hrest⟩ := hfound p hp v hv
    obtain ⟨part, -, hsegs⟩ := hcut v rest rfl
    show walk v p.2 = follow v rest
    rw [hrest]
    refine walk_join v fun s hs => ?_
    have hmem : s ∈ segments path.toList := hsegs ▸ List.mem_append_right part hs
    exact ⟨hpath s hmem, not_mem_of_mem_segments hmem⟩

end Environment
end Screens
