import Screens.Json.Record
import Screens.Proofs.Json.Canonical

/-! What reading comes to.

A reader that succeeds took its steps one after the other (`Reader.ok_of_bind`). A value that was
read goes on after its first mark as that mark tells (`goesOn_of_value`), and the items and the
members in it go on as the marks between them tell. -/
namespace Screens.Json

/-! ### Steps of a reader -/

namespace Reader

variable {α β : Type} {p q : Reader α} {f g : α → Reader β} {bytes rest : Bytes}

theorem bind_ok {a : α} (h : p bytes = .ok (a, rest)) (f : α → Reader β) :
    (p >>= f) bytes = f a rest := by
  show (p bytes >>= fun r => f r.1 r.2) = f a rest
  rw [h]
  rfl

theorem ok_of_bind {r : β × Bytes} (h : (p >>= f) bytes = .ok r) :
    ∃ a rest, p bytes = .ok (a, rest) ∧ f a rest = .ok r := by
  have hbind : (p bytes >>= fun r => f r.1 r.2) = .ok r := h
  cases hp : p bytes with
  | error fault =>
    rw [hp] at hbind
    cases hbind
  | ok found =>
    rw [hp] at hbind
    exact ⟨found.1, found.2, rfl, hbind⟩

/-- Where the first reader succeeds, so does the second, and in the same way. -/
def Below (p q : Reader α) : Prop := ∀ bytes r, p bytes = .ok r → q bytes = .ok r

theorem Below.refl (p : Reader α) : Below p p := fun _ _ h => h

theorem Below.bind (h : Below p q) (hf : ∀ a, Below (f a) (g a)) : Below (p >>= f) (q >>= g) := by
  intro bytes r hr
  obtain ⟨a, rest, hp, hfa⟩ := ok_of_bind hr
  rw [bind_ok (h _ _ hp)]
  exact hf a _ _ hfa

theorem Below.ite {c : Prop} [Decidable c] {p q s t : Reader α} (hthen : Below p s)
    (helse : Below q t) : Below (if c then p else q) (if c then s else t) := by
  split
  · exact hthen
  · exact helse

/-- What is read on was not refused. -/
theorem ok_of_refuse {c : Prop} [Decidable c] {fault : Fault}
    {k : PUnit → Reader α} {r : α × Bytes}
    (h : (if c then throw fault >>= k else p) bytes = .ok r) : ¬ c ∧ p bytes = .ok r := by
  split at h
  · cases h
  · exact ⟨‹_›, h⟩

end Reader

open Reader

/-! ### First marks -/

theorem next_ok {bytes rest : Bytes} {b : UInt8} : next bytes = .ok (b, rest) ↔ bytes = b :: rest := by
  cases bytes <;> simp [next]

theorem nextMark_ok {bytes rest : Bytes} {b : UInt8} :
    nextMark bytes = .ok (b, rest) ↔ bytes.dropWhile isSpace = b :: rest := by
  unfold nextMark
  cases bytes.dropWhile isSpace with
  | nil => simp [next]
  | cons c rest => simp [next, eq_comm]

/-- A byte that is no space comes next where it stands. -/
theorem nextMark_cons {b : UInt8} (h : isSpace b = false) (rest : Bytes) :
    nextMark (b :: rest) = .ok (b, rest) :=
  nextMark_ok.2 (List.dropWhile_cons_of_neg (by simp [h]))

theorem isSpace_of_nextMark {bytes rest : Bytes} {b : UInt8} (h : nextMark bytes = .ok (b, rest)) :
    isSpace b = false := by
  have hdrop := nextMark_ok.1 h
  have hhead := List.head?_dropWhile_not isSpace bytes
  rw [hdrop] at hhead
  simpa using hhead

/-! After its first mark an array or an object is closed at once, or what is in it is read. -/

section

variable {bytes inner : Bytes} {fuel room : Nat}

theorem value_of_array (h : nextMark bytes = .ok (91, inner)) (hroom : room ≠ 0) :
    value (fuel + 1) room bytes = (takes 93 >>= fun closed => if closed = true then pure (.arr [])
      else values fuel (room - 1) >>= fun items => pure (.arr items)) inner := by
  unfold value
  rw [bind_ok h]
  dsimp only
  rw [if_pos rfl, if_neg hroom]

theorem value_of_object (h : nextMark bytes = .ok (123, inner)) (hroom : room ≠ 0) :
    value (fuel + 1) room bytes = (takes 125 >>= fun closed => if closed = true then pure (.obj [])
      else members fuel (room - 1) >>= fun fields => pure (.obj fields)) inner := by
  unfold value
  rw [bind_ok h]
  dsimp only
  rw [if_neg (by decide), if_pos rfl, if_neg hroom]

theorem value_of_leaf {first : UInt8} (h : nextMark bytes = .ok (first, inner)) (harr : first ≠ 91)
    (hobj : first ≠ 123) : value (fuel + 1) room bytes = leaf fuel first inner := by
  unfold value
  rw [bind_ok h]
  dsimp only
  rw [if_neg harr, if_neg hobj]

end

/-- How a value goes on after its first byte. -/
inductive GoesOn (n room : Nat) (bytes : Bytes) : UInt8 → Json × Bytes → Prop where
  | emptyArr (hroom : room ≠ 0) {rest : Bytes} (h : takes 93 bytes = .ok (true, rest)) :
    GoesOn n room bytes 91 (.arr [], rest)
  | arr (hroom : room ≠ 0) {inner : Bytes} (h : takes 93 bytes = .ok (false, inner))
      {items : List Json} {rest : Bytes}
      (hvalues : values n (room - 1) inner = .ok (items, rest)) :
    GoesOn n room bytes 91 (.arr items, rest)
  | emptyObj (hroom : room ≠ 0) {rest : Bytes} (h : takes 125 bytes = .ok (true, rest)) :
    GoesOn n room bytes 123 (.obj [], rest)
  | obj (hroom : room ≠ 0) {inner : Bytes} (h : takes 125 bytes = .ok (false, inner))
      {fields : List (String × Json)} {rest : Bytes}
      (hmembers : members n (room - 1) inner = .ok (fields, rest)) :
    GoesOn n room bytes 123 (.obj fields, rest)
  | leaf {first : UInt8} {r : Json × Bytes} (h : leaf n first bytes = .ok r) :
    GoesOn n room bytes first r

theorem goesOn_of_value {n room : Nat} {bytes : Bytes} {r : Json × Bytes}
    (h : value n room bytes = .ok r) :
    ∃ m first rest, n = m + 1 ∧ nextMark bytes = .ok (first, rest) ∧ GoesOn m room rest first r := by
  cases n with
  | zero => cases h
  | succ n =>
    unfold value at h
    obtain ⟨first, rest, hfirst, h⟩ := ok_of_bind h
    refine ⟨n, first, rest, rfl, hfirst, ?_⟩
    dsimp only at h
    by_cases harr : first = 91
    · subst harr
      rw [if_pos rfl] at h
      by_cases hroom : room = 0
      · rw [if_pos hroom] at h
        cases h
      · rw [if_neg hroom] at h
        obtain ⟨closed, inner, hclosed, h⟩ := ok_of_bind h
        cases closed with
        | true =>
          cases h
          exact .emptyArr hroom hclosed
        | false =>
          obtain ⟨items, last, hvalues, h⟩ := ok_of_bind h
          cases h
          exact .arr hroom hclosed hvalues
    · rw [if_neg harr] at h
      by_cases hobj : first = 123
      · subst hobj
        rw [if_pos rfl] at h
        by_cases hroom : room = 0
        · rw [if_pos hroom] at h
          cases h
        · rw [if_neg hroom] at h
          obtain ⟨closed, inner, hclosed, h⟩ := ok_of_bind h
          cases closed with
          | true =>
            cases h
            exact .emptyObj hroom hclosed
          | false =>
            obtain ⟨fields, last, hmembers, h⟩ := ok_of_bind h
            cases h
            exact .obj hroom hclosed hmembers
      · rw [if_neg hobj] at h
        exact .leaf h

/-- The first item of an array with the mark after it, and the items that come after the mark. -/
inductive ItemsGoOn (n room : Nat) (bytes : Bytes) : List Json × Bytes → Prop where
  | item {v : Json} {afterValue : Bytes} (hvalue : value n room bytes = .ok (v, afterValue))
      {more : Bool} {afterMark : Bytes} (hmark : moreItems 93 afterValue = .ok (more, afterMark))
      {items : List Json} {rest : Bytes}
      (hitems : (if more = true then values n room else pure []) afterMark = .ok (items, rest)) :
    ItemsGoOn n room bytes (v :: items, rest)

theorem itemsGoOn_of_values {n room : Nat} {bytes : Bytes} {r : List Json × Bytes}
    (h : values (n + 1) room bytes = .ok r) : ItemsGoOn n room bytes r := by
  unfold values at h
  obtain ⟨v, afterValue, hvalue, h⟩ := ok_of_bind h
  obtain ⟨more, afterMark, hmark, h⟩ := ok_of_bind h
  cases more with
  | false =>
    cases h
    exact .item hvalue hmark rfl
  | true =>
    obtain ⟨items, last, hitems, h⟩ := ok_of_bind h
    cases h
    exact .item hvalue hmark hitems

/-- The first member of an object with the mark after it, and the members that come after the
mark. -/
inductive MembersGoOn (n room : Nat) (bytes : Bytes) : List (String × Json) × Bytes → Prop where
  | member {k : String} {afterKey : Bytes} (hkey : key n bytes = .ok (k, afterKey))
      {afterColon : Bytes} (hcolon : expect 58 afterKey = .ok ((), afterColon))
      {v : Json} {afterValue : Bytes} (hvalue : value n room afterColon = .ok (v, afterValue))
      {more : Bool} {afterMark : Bytes} (hmark : moreItems 125 afterValue = .ok (more, afterMark))
      {fields : List (String × Json)} {rest : Bytes}
      (hfields : (if more = true then members n room else pure []) afterMark = .ok (fields, rest)) :
    MembersGoOn n room bytes ((k, v) :: fields, rest)

theorem membersGoOn_of_members {n room : Nat} {bytes : Bytes} {r : List (String × Json) × Bytes}
    (h : members (n + 1) room bytes = .ok r) : MembersGoOn n room bytes r := by
  unfold members at h
  obtain ⟨k, afterKey, hkey, h⟩ := ok_of_bind h
  obtain ⟨_, afterColon, hcolon, h⟩ := ok_of_bind h
  obtain ⟨v, afterValue, hvalue, h⟩ := ok_of_bind h
  obtain ⟨more, afterMark, hmark, h⟩ := ok_of_bind h
  cases more with
  | false =>
    cases h
    exact .member hkey hcolon hvalue hmark rfl
  | true =>
    obtain ⟨fields, last, hfields, h⟩ := ok_of_bind h
    cases h
    exact .member hkey hcolon hvalue hmark hfields

theorem byte_of_char {b : UInt8} {c : Char} (h : Char.ofNat b.toNat = c) : b.toNat = c.toNat := by
  have hvalid : b.toNat.isValidChar := .inl (Nat.lt_trans b.toNat_lt (by decide))
  rw [← h, Char.ofNat, dif_pos hvalid]
  rfl

/-- A leaf is neither an array nor an object, and only a string starts with a quote. -/
theorem of_leaf {n : Nat} {first : UInt8} {bytes rest : Bytes} {v : Json}
    (h : leaf n first bytes = .ok (v, rest)) :
    v.isLeaf = true ∧ ∀ s, v = .str s → first = 34 := by
  have hchar := @byte_of_char first
  unfold leaf at h
  generalize Char.ofNat first.toNat = c at h hchar
  split at h
  case h_4 =>
    obtain ⟨s, _, _, h⟩ := ok_of_bind h
    cases h
    exact ⟨rfl, fun _ _ => UInt8.toNat_inj.1 (hchar rfl)⟩
  case h_6 =>
    dsimp only at h
    split at h
    · obtain ⟨_, _, hthrow, _⟩ := ok_of_bind h
      cases hthrow
    · obtain ⟨_, _, _, h⟩ := ok_of_bind h
      obtain ⟨n, _, _, h⟩ := ok_of_bind h
      cases h
      exact ⟨rfl, fun _ => nofun⟩
  all_goals
    obtain ⟨_, _, _, h⟩ := ok_of_bind h
    cases h
    exact ⟨rfl, fun _ => nofun⟩

theorem not_bracket_of_leaf {n : Nat} {first : UInt8} {bytes : Bytes} {r : Json × Bytes}
    (h : leaf n first bytes = .ok r) : first ≠ 91 ∧ first ≠ 123 := by
  constructor
  · rintro rfl
    cases h
  · rintro rfl
    cases h

/-- A value starts with neither of the brackets that close. -/
theorem first_of_value {n room : Nat} {bytes : Bytes} {r : Json × Bytes}
    (h : value n room bytes = .ok r) :
    ∃ first rest, nextMark bytes = .ok (first, rest) ∧ first ≠ 93 ∧ first ≠ 125 := by
  obtain ⟨m, first, rest, -, hfirst, hon⟩ := goesOn_of_value h
  refine ⟨first, rest, hfirst, ?_⟩
  cases hon with
  | emptyArr | arr | emptyObj | obj => decide
  | leaf h =>
    constructor
    · rintro rfl
      cases h
    · rintro rfl
      cases h

/-- A value is read after its first mark was put back in front of it. -/
theorem value_putBack {n room : Nat} {bytes rest : Bytes} {first : UInt8}
    (hfirst : nextMark bytes = .ok (first, rest)) :
    value n room (first :: rest) = value n room bytes := by
  cases n with
  | zero => rfl
  | succ n =>
    have hagain := nextMark_cons (isSpace_of_nextMark hfirst) rest
    unfold value
    rw [bind_ok hagain, bind_ok hfirst]

/-! ### Whole texts -/

/-- Nothing but spaces is left of a text that was read as a whole. -/
theorem whole_ok {α : Type} {p : Reader α} {bytes : Bytes} {a : α} :
    (whole p).run' bytes = .ok a ↔
      ∃ rest, p bytes = .ok (a, rest) ∧ rest.dropWhile isSpace = [] := by
  rw [StateT.run', whole]
  cases hp : p bytes with
  | error fault =>
    have hwhole : (p >>= fun v => finish >>= fun _ => pure v) bytes = .error fault := by
      show (p bytes >>= _) = _
      rw [hp]
      rfl
    rw [hwhole]
    exact ⟨nofun, nofun⟩
  | ok found =>
    obtain ⟨b, rest⟩ := found
    have hfinish : finish rest =
        if (rest.dropWhile isSpace).isEmpty then .ok ((), []) else .error .malformed := rfl
    rw [bind_ok hp]
    show Prod.fst <$> (finish rest >>= fun r => .ok (b, r.2)) = .ok a ↔ _
    rw [hfinish]
    cases hspaces : rest.dropWhile isSpace with
    | nil =>
      constructor
      · rintro ⟨⟩
        exact ⟨rest, rfl, hspaces⟩
      · rintro ⟨_, ⟨⟩, _⟩
        rfl
    | cons c more =>
      constructor
      · rintro ⟨⟩
      · rintro ⟨_, ⟨⟩, hnil⟩
        rw [hspaces] at hnil
        cases hnil

end Screens.Json
