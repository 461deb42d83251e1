import Screens.Environment.Interpolation

/-! Tokens without a binding.

Each token of a text whose path has no binding is reported once. A text without two
opening braces has no token, so that passing it by reports nothing less
(`unresolved_of_not_hasTokens`). -/
namespace Screens.Interpolation

/-- The tokens of a text whose paths have no binding. -/
def unresolvedIn (scope : Scope) (template : String) : List Piece :=
  (pieces template.toList).filter fun
    | .literal _ => false
    | .token _ path => scope.lookup (String.ofList path) == none

theorem isSome_unresolved? (scope : Scope) (path written : List Char) :
    ((Piece.token written path).unresolved? scope).isSome =
      (scope.lookup (String.ofList path) == none) := by
  rw [Piece.unresolved?]
  cases scope.lookup (String.ofList path) <;> rfl

theorem length_unresolved (template : String) (scope : Scope) :
    (interpolate template scope).unresolved.length = (unresolvedIn scope template).length := by
  rw [unresolvedIn, ← List.countP_eq_length_filter]
  refine List.length_filterMap_eq_countP.trans (List.countP_congr fun p _ => ?_)
  cases p with
  | literal c => exact Iff.rfl
  | token written path => rw [isSome_unresolved?]

theorem opens_of_token? {cs : List Char} {t : List Char × List Char} (h : token? cs = some t) :
    opens cs = true := by
  unfold token? at h
  split at h
  · rfl
  · cases h

theorem opens_cons_of_opens (c : Char) {rest : List Char} (h : opens rest = true) :
    opens (c :: rest) = true := by
  unfold opens
  split
  · rfl
  · rename_i other heq
    cases heq
    exact h
  · rename_i heq
    cases heq

/-- A text without two opening braces has no token. -/
theorem pieces_of_not_opens {cs : List Char} (h : opens cs = false) :
    pieces cs = cs.map .literal := by
  induction cs with
  | nil => rfl
  | cons c rest ih =>
    have hrest : opens rest = false := by
      rw [← Bool.not_eq_true] at h ⊢
      exact fun ho => h (opens_cons_of_opens c ho)
    have hnone : token? (c :: rest) = none := by
      rw [Option.eq_none_iff_forall_ne_some]
      intro t ht
      rw [opens_of_token? ht] at h
      cases h
    rw [pieces, piecesFrom, hnone]
    exact congrArg _ (ih hrest)

theorem unresolved_of_not_hasTokens {template : String} (h : hasTokens template = false)
    (scope : Scope) : (interpolate template scope).unresolved = [] := by
  rw [interpolate, pieces_of_not_opens h]
  simp [Piece.unresolved?]

end Screens.Interpolation
