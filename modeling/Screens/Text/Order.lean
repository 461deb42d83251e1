/-! The order of texts.

Texts are compared character by character, by code point, which is also the order of
their UTF-8 bytes; a text comes after its own beginnings. The order is strict and any
two different texts are in it one way or the other. -/
namespace Screens.TextOrder

def charsBefore : List Char → List Char → Bool
  | _, [] => false
  | [], _ :: _ => true
  | a :: as, b :: bs => decide (a.toNat < b.toNat) || (a == b && charsBefore as bs)

def before (a b : String) : Bool := charsBefore a.toList b.toList

theorem charsBefore_cons {a b : Char} {as bs : List Char} :
    charsBefore (a :: as) (b :: bs) = true ↔
      a.toNat < b.toNat ∨ (a = b ∧ charsBefore as bs = true) := by
  simp [charsBefore]

theorem charsBefore_self (as : List Char) : charsBefore as as = false := by
  induction as with
  | nil => rfl
  | cons a as ih => simp [charsBefore, ih]

theorem charsBefore_trans {as bs cs : List Char} (h : charsBefore as bs = true)
    (k : charsBefore bs cs = true) : charsBefore as cs = true := by
  induction as generalizing bs cs with
  | nil =>
    cases bs with
    | nil => simp [charsBefore] at h
    | cons b bs => cases cs with
      | nil => simp [charsBefore] at k
      | cons c cs => rfl
  | cons a as ih =>
    cases bs with
    | nil => simp [charsBefore] at h
    | cons b bs => cases cs with
      | nil => simp [charsBefore] at k
      | cons c cs =>
        rw [charsBefore_cons] at h k ⊢
        rcases h with h | ⟨rfl, h⟩ <;> rcases k with k | ⟨rfl, k⟩
        · exact .inl (Nat.lt_trans h k)
        · exact .inl h
        · exact .inl k
        · exact .inr ⟨rfl, ih h k⟩

theorem charsBefore_or {as bs : List Char} (h : as ≠ bs) :
    charsBefore as bs = true ∨ charsBefore bs as = true := by
  induction as generalizing bs with
  | nil =>
    cases bs with
    | nil => exact absurd rfl h
    | cons b bs => exact .inl rfl
  | cons a as ih =>
    cases bs with
    | nil => exact .inr rfl
    | cons b bs =>
      rw [charsBefore_cons, charsBefore_cons]
      rcases Nat.lt_trichotomy a.toNat b.toNat with hlt | heq | hgt
      · exact .inl (.inl hlt)
      · have hab : a = b := Char.toNat_inj.1 heq
        subst hab
        rcases ih fun hs => h (hs ▸ rfl) with hs | hs
        · exact .inl (.inr ⟨rfl, hs⟩)
        · exact .inr (.inr ⟨rfl, hs⟩)
      · exact .inr (.inl hgt)

theorem before_self (a : String) : before a a = false := charsBefore_self _

theorem before_trans {a b c : String} (h : before a b = true) (k : before b c = true) :
    before a c = true := charsBefore_trans h k

theorem before_of_not_before {a b : String} (h : before a b ≠ true) (hne : a ≠ b) :
    before b a = true :=
  (charsBefore_or fun hs => hne (String.toList_injective hs)).resolve_left h

end Screens.TextOrder
