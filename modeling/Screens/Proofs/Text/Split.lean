import Mathlib.Data.String.Basic

/-! Texts cut at a character.

A text cut at a separator of one character is its list of characters cut there
(`splitOn_singleton`), so parts without the separator are what their join is cut into. -/
namespace Screens.TextSplit

open String

/-- The part in progress is `m`, and `r` is still to come. -/
theorem splitOnAux_eq (c : Char) (l m r : List Char) (acc : List String) :
    splitOnAux (ofList (l ++ m ++ r)) (singleton c) ⟨utf8Len l⟩ ⟨utf8Len l + utf8Len m⟩ 0 acc =
      acc.reverse ++ (List.splitOnPPrepend (· == c) r m.reverse).map ofList := by
  induction r generalizing l m acc with
  | nil =>
    have hend := (atEnd_of_valid (l ++ m) []).2 rfl
    rw [utf8Len_append] at hend
    rw [splitOnAux, if_pos hend, extract_of_valid]
    simp
  | cons d r ih =>
    have hend := mt (atEnd_of_valid (l ++ m) (d :: r)).1 (List.cons_ne_nil d r)
    have hget := get_of_valid (l ++ m) (d :: r)
    have hnext := next_of_valid (l ++ m) d r
    rw [utf8Len_append] at hend hget hnext
    have hfirst : Pos.Raw.get (singleton c) 0 = c := get_of_valid [] [c]
    have hone : Pos.Raw.next (singleton c) 0 = ⟨c.utf8Size⟩ := by
      simpa [utf8Len] using next_of_valid [] c []
    have hlast : Pos.Raw.atEnd (singleton c) ⟨c.utf8Size⟩ = true := by
      simpa [utf8Len] using (atEnd_of_valid [c] []).2 rfl
    rw [splitOnAux, if_neg hend, hget, hfirst, hone, List.headD_cons]
    by_cases hd : (d == c) = true
    · obtain rfl := beq_iff_eq.1 hd
      have hback : (⟨utf8Len l + utf8Len m + d.utf8Size⟩ : Pos.Raw).unoffsetBy ⟨d.utf8Size⟩ =
          ⟨utf8Len l + utf8Len m⟩ := by
        simp [Pos.Raw.unoffsetBy]
      have hcut := ih (l ++ m ++ [d]) [] (ofList m :: acc)
      rw [if_pos hd, if_pos hlast, List.splitOnPPrepend_cons_pos (p := (· == d)) hd, hnext, hback,
        extract_of_valid]
      simpa [utf8Len_append, Nat.add_assoc] using hcut
    · have hgoes := ih l (m ++ [d]) acc
      have hstay : (⟨utf8Len l + utf8Len m⟩ : Pos.Raw).unoffsetBy 0 = ⟨utf8Len l + utf8Len m⟩ := rfl
      rw [if_neg hd, List.splitOnPPrepend_cons_neg (p := (· == c)) (eq_false_of_ne_true hd), hstay,
        hnext]
      simpa [utf8Len_append, Nat.add_assoc] using hgoes

theorem splitOn_singleton (s : String) (c : Char) :
    s.splitOn (singleton c) = (s.toList.splitOn c).map ofList := by
  have hne : singleton c ≠ "" := by simp [← toList_inj]
  have hwhole := splitOnAux_eq c [] [] s.toList []
  rw [List.nil_append, List.nil_append, ofList_toList] at hwhole
  rw [splitOn, if_neg (mt beq_iff_eq.1 hne)]
  exact hwhole

theorem splitOn_intercalate {c : Char} {parts : List String} (hne : parts ≠ [])
    (h : ∀ part ∈ parts, c ∉ part.toList) :
    ((singleton c).intercalate parts).splitOn (singleton c) = parts := by
  have hback : (parts.map toList).map ofList = parts := by
    rw [List.map_map]
    exact (List.map_congr_left fun s _ => ofList_toList).trans (List.map_id' parts)
  rw [splitOn_singleton, toList_intercalate, toList_singleton,
    List.splitOn_intercalate c (by simpa using h) (by simpa using hne), hback]

theorem endsWith_iff {s ending : String} :
    s.endsWith ending = true ↔ ∃ front, s = front ++ ending := by
  rw [String.endsWith_eq_endsWith_toSlice, String.Slice.endsWith_string_iff, String.copy_toSlice]
  constructor
  · rintro ⟨front, hfront⟩
    refine ⟨String.ofList front, String.toList_injective ?_⟩
    rw [String.toList_append, String.toList_ofList, hfront]
  · rintro ⟨front, rfl⟩
    exact ⟨front.toList, String.toList_append.symm⟩

end Screens.TextSplit
