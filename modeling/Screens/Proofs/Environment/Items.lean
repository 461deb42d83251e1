import Mathlib.Data.List.Basic
import Screens.Environment.Basic
import Screens.Proofs.Keyed.Lookup

/-! An item in scope is a binding of `item`.

A path is looked up in an environment at its longest bound part, in a scope at the
innermost item that has it. Where the environment binds neither `item` nor a path below
it, the two come to the same for an item: no part of a path under `item` is bound but the
item itself, and no other path has `item` for a part (`Scope.lookup_insert_item`). Scopes
that answer a path alike do so below one more item (`Scope.lookup_withItem`). -/
namespace Screens

/-! ### Parts of a path -/

namespace Path

/-- A path is cut at its dots and nowhere else. -/
theorem mem_cuts {path a b : List Char} : (a, b) ∈ cuts path ↔ path = a ++ '.' :: b := by
  induction path generalizing a with
  | nil => simp [cuts]
  | cons c rest ih =>
    have hmem : (a, b) ∈ cuts (c :: rest) ↔
        (∃ a', (a', b) ∈ cuts rest ∧ c :: a' = a) ∨ (c = '.' ∧ a = [] ∧ rest = b) := by
      rw [cuts]
      by_cases hc : c = '.' <;> simp [hc, eq_comm]
    rw [hmem]
    cases a with
    | nil => simp
    | cons d a' =>
      constructor
      · rintro (⟨x, hx, heq⟩ | ⟨_, heq, _⟩)
        · rw [← heq, ih.1 hx]
          rfl
        · cases heq
      · intro heq
        obtain ⟨rfl, hrest⟩ := List.cons.inj heq
        exact .inl ⟨a', ih.2 hrest, rfl⟩

/-- A path that is cut further on starts with all of its first segment, and a dot. -/
theorem first_or_beyond {first below part rest : List Char} (hdot : '.' ∉ first)
    (h : first ++ '.' :: below = part ++ '.' :: rest) :
    (part = first ∧ rest = below) ∨ first ++ ['.'] <+: part := by
  rcases List.append_eq_append_iff.1 h with ⟨more, rfl, heq⟩ | ⟨more, rfl, heq⟩
  · cases more with
    | nil => exact .inl ⟨List.append_nil _, (List.cons.inj heq).2.symm⟩
    | cons c more =>
      obtain ⟨rfl, -⟩ := List.cons.inj heq
      exact .inr ⟨more, by simp⟩
  · cases more with
    | nil => exact .inl ⟨(List.append_nil _).symm, (List.cons.inj heq).2⟩
    | cons c more =>
      obtain ⟨rfl, -⟩ := List.cons.inj heq
      exact absurd (List.mem_append_right part List.mem_cons_self) hdot

end Path

namespace Environment

theorem mem_starts {path part rest : List Char} :
    (part, rest) ∈ starts path ↔ (part = path ∧ rest = []) ∨ path = part ++ '.' :: rest := by
  rw [starts, List.mem_cons, Path.mem_cuts, Prod.mk.injEq]

end Environment

/-! ### Paths under `item` -/

namespace Scope

theorem itemPath?_eq_some {path rest : List Char} :
    itemPath? path = some rest ↔
      (path = ['i', 't', 'e', 'm'] ∧ rest = []) ∨ path = ['i', 't', 'e', 'm', '.'] ++ rest := by
  unfold itemPath?
  split
  · simp [eq_comm]
  · simp [eq_comm]
  · rename_i hitem hbelow
    constructor
    · simp
    · rintro (⟨rfl, -⟩ | rfl)
      · exact absurd rfl hitem
      · exact absurd rfl (hbelow rest)

/-- Below `item` a path is bound at `item` itself or further down. -/
theorem starts_of_itemPath? {path below part rest : List Char} (h : itemPath? path = some below)
    (hpart : (part, rest) ∈ Environment.starts path) :
    (part = ['i', 't', 'e', 'm'] ∧ rest = below) ∨ ['i', 't', 'e', 'm', '.'] <+: part := by
  rcases itemPath?_eq_some.1 h with ⟨rfl, rfl⟩ | rfl
  · left
    have hitem : Environment.starts ['i', 't', 'e', 'm'] = [(['i', 't', 'e', 'm'], [])] := rfl
    rw [hitem, List.mem_singleton] at hpart
    exact Prod.mk.inj hpart
  · rcases Environment.mem_starts.1 hpart with ⟨rfl, -⟩ | heq
    · exact .inr (List.prefix_append _ _)
    · have hdot : '.' ∉ ['i', 't', 'e', 'm'] := by decide
      exact Path.first_or_beyond hdot heq

theorem item_mem_starts {path rest : List Char} :
    (['i', 't', 'e', 'm'], rest) ∈ Environment.starts path ↔ itemPath? path = some rest := by
  rw [itemPath?_eq_some, Environment.mem_starts]
  constructor
  · rintro (⟨rfl, rfl⟩ | rfl)
    · exact .inl ⟨rfl, rfl⟩
    · exact .inr rfl
  · rintro (⟨rfl, rfl⟩ | rfl)
    · exact .inl ⟨rfl, rfl⟩
    · exact .inr rfl

end Scope

/-- Neither `item` nor a path that starts with it is bound. -/
def Environment.WithoutItem (env : Environment) : Prop :=
  ∀ e ∈ env.bindings.entries, e.1 ≠ "item" ∧ ¬ "item.".toList <+: e.1.toList

instance (env : Environment) : Decidable env.WithoutItem := by
  unfold Environment.WithoutItem
  infer_instance

namespace Environment

variable {env : Environment}

theorem get?_insert (env : Environment) (key : String) (v : Json) (other : String) :
    (env.insert key v).bindings.get? other =
      if other = key then some v else env.bindings.get? other := by
  by_cases h : other = key
  · subst h
    rw [if_pos rfl]
    exact Entries.lookup_insert_self other v env.bindings.entries
  · rw [if_neg h]
    exact Entries.lookup_insert_of_ne v env.bindings.entries h

theorem get?_eq_none_of_withoutItem (h : env.WithoutItem) {part : List Char}
    (hpart : part = ['i', 't', 'e', 'm'] ∨ ['i', 't', 'e', 'm', '.'] <+: part) :
    env.bindings.get? (String.ofList part) = none := by
  refine Lookup.eq_none_iff_not_mem.2 fun hmem => ?_
  obtain ⟨e, he, hkey⟩ := List.mem_map.1 hmem
  obtain ⟨hitem, hbelow⟩ := h e he
  rw [hkey] at hitem hbelow
  rcases hpart with rfl | hpart
  · exact hitem rfl
  · have hkeys : (String.ofList part).toList = part := String.toList_ofList
    rw [hkeys] at hbelow
    exact hbelow hpart

theorem bindingPoint?_eq (env : Environment) (path : List Char) :
    env.bindingPoint? path = (starts path).findSome? fun s =>
      (env.bindings.get? (String.ofList s.1)).map (·, s.2) := rfl

theorem ofList_eq_item {part : List Char} :
    String.ofList part = "item" ↔ part = ['i', 't', 'e', 'm'] := by
  have hitem : String.ofList ['i', 't', 'e', 'm'] = "item" := rfl
  rw [← hitem, String.ofList_inj]

/-- Nothing under `item` is bound. -/
theorem get_eq_none_of_itemPath? (h : env.WithoutItem) {path : String} {below : List Char}
    (hpath : Scope.itemPath? path.toList = some below) : env.get path = none := by
  have hpoint : env.bindingPoint? path.toList = none := by
    rw [bindingPoint?_eq, List.findSome?_eq_none_iff]
    rintro ⟨part, rest⟩ hmem
    have hpart := (Scope.starts_of_itemPath? hpath hmem).imp_left And.left
    rw [get?_eq_none_of_withoutItem h hpart]
    rfl
  rw [get, hpoint]
  rfl

/-- With an item bound, a path under `item` is walked from the item. -/
theorem get_insert_of_itemPath? (h : env.WithoutItem) (v : Json) {path : String}
    {below : List Char} (hpath : Scope.itemPath? path.toList = some below) :
    (env.insert "item" v).get path = Path.walk v below := by
  have hpoint : (env.insert "item" v).bindingPoint? path.toList = some (v, below) := by
    -- The item is bound, and no other start of the path is.
    have hitem : (['i', 't', 'e', 'm'], below) ∈ starts path.toList := Scope.item_mem_starts.2 hpath
    rw [bindingPoint?_eq]
    cases hfound : (starts path.toList).findSome? fun s =>
        ((env.insert "item" v).bindings.get? (String.ofList s.1)).map (·, s.2) with
    | none =>
      have hnone := List.findSome?_eq_none_iff.1 hfound _ hitem
      rw [get?_insert, if_pos (ofList_eq_item.2 rfl)] at hnone
      cases hnone
    | some found =>
      obtain ⟨⟨part, rest⟩, hmem, hbound⟩ := List.exists_of_findSome?_eq_some hfound
      rw [get?_insert] at hbound
      rcases Scope.starts_of_itemPath? hpath hmem with ⟨rfl, rfl⟩ | hbeyond
      · rw [if_pos (ofList_eq_item.2 rfl)] at hbound
        exact hbound.symm
      · have hnone := get?_eq_none_of_withoutItem h (.inr hbeyond)
        have hne : ¬ String.ofList part = "item" := by
          intro heq
          rw [ofList_eq_item.1 heq] at hbeyond
          exact absurd hbeyond.length_le (by decide)
        rw [if_neg hne, hnone] at hbound
        cases hbound
  rw [get, hpoint]
  rfl

/-- No other path has to do with the item. -/
theorem get_insert_of_not_itemPath? (env : Environment) (v : Json) {path : String}
    (hpath : Scope.itemPath? path.toList = none) :
    (env.insert "item" v).get path = env.get path := by
  have hpoint : (env.insert "item" v).bindingPoint? path.toList = env.bindingPoint? path.toList := by
    rw [bindingPoint?_eq, bindingPoint?_eq, ← List.head?_filterMap, ← List.head?_filterMap]
    refine congrArg List.head? (List.filterMap_congr ?_)
    rintro ⟨part, rest⟩ hmem
    have hne : ¬ String.ofList part = "item" := by
      intro heq
      rw [ofList_eq_item.1 heq] at hmem
      rw [Scope.item_mem_starts.1 hmem] at hpath
      cases hpath
    rw [get?_insert, if_neg hne]
  rw [get, hpoint, get]

end Environment

namespace Scope

/-- The innermost item is asked first, for a path under `item`. -/
theorem lookup_withItem (s : Scope) (v : Json) (path : String) :
    (s.withItem v).lookup path =
      ((itemPath? path.toList).bind (Path.walk v)).or (s.lookup path) := by
  unfold lookup withItem
  cases itemPath? path.toList with
  | none => rfl
  | some below => cases h : Path.walk v below <;> simp [h]

theorem lookup_root (env : Environment) (path : String) : (root env).lookup path = env.get path := by
  unfold lookup root
  cases itemPath? path.toList <;> rfl

/-- An item in scope is looked up as if it were bound. -/
theorem lookup_insert_item {env : Environment} (h : env.WithoutItem) (v : Json) (path : String) :
    ((root env).withItem v).lookup path = (root (env.insert "item" v)).lookup path := by
  rw [lookup_withItem, lookup_root, lookup_root]
  cases hpath : itemPath? path.toList with
  | none => exact (env.get_insert_of_not_itemPath? v hpath).symm
  | some below =>
    rw [Environment.get_eq_none_of_itemPath? h hpath, Environment.get_insert_of_itemPath? h v hpath]
    exact Option.or_none

end Scope
end Screens
