import Screens.Proofs.Json.Extent

/-! Passing over what could be read.

Every reader takes bytes from the front (`Reader.Consumes`), so a text gives it only so many steps
to take and only so many levels to go down. With as many as that to spend, it takes from the text
what it takes with any others (`Settled`); and to pass over a value takes no more of them than to
read it, and ends at the same place (`settled_all`). The two differ inside a string, where a
character may be written as two escapes: to read it is one step, to pass over it two. -/
namespace Screens.Json

open Reader

variable {bytes rest : Bytes}

/-! ### Strings -/

theorem skipString_unit {n : Nat} (h : hexEscape bytes = .ok (n, rest)) (fuel : Nat) :
    skipString (fuel + 1) (92 :: 117 :: bytes) = skipString fuel rest := by
  have hdiscard : (discard hexEscape : Reader Unit) bytes = .ok ((), rest) := by
    show (hexEscape bytes >>= _) = _
    rw [h]
    rfl
  rw [skipString, bind_ok (next_ok.2 rfl)]
  dsimp only
  rw [if_neg (by decide), if_neg (by decide), if_pos rfl, bind_ok (next_ok.2 rfl), if_pos rfl,
    bind_ok hdiscard]

/-- Passing over a string takes one step for a piece, or two for one that is two units. -/
theorem skipString_piece {content : Bytes} (h : piece bytes = .ok (some content, rest))
    {fuel : Nat} (hfuel : 2 * bytes.length ≤ fuel) :
    ∃ left, 2 * rest.length ≤ left ∧ skipString fuel bytes = skipString left rest := by
  have hshorter := piece_consumes _ _ _ h
  obtain ⟨fuel, rfl⟩ : ∃ k, fuel = k + 2 := ⟨fuel - 2, by omega⟩
  cases isPiece_of_piece h with
  | plain hquote hcontrol hescape =>
    refine ⟨fuel + 1, by omega, ?_⟩
    rw [skipString, bind_ok (next_ok.2 rfl)]
    dsimp only
    rw [if_neg hquote, if_neg hcontrol, if_neg hescape]
  | escaped h => cases h with
    | short hunicode hshort =>
      refine ⟨fuel + 1, by omega, ?_⟩
      rw [skipString, bind_ok (next_ok.2 rfl)]
      dsimp only
      rw [if_neg (by decide), if_neg (by decide), if_pos rfl, bind_ok (next_ok.2 rfl),
        if_neg hunicode, hshort]
      rfl
    | unicode h =>
      obtain ⟨n, hunit | ⟨m, more, hunit, hlast⟩⟩ := unicodeEscape_ok h
      · exact ⟨fuel + 1, by omega, skipString_unit hunit _⟩
      · refine ⟨fuel, by omega, ?_⟩
        rw [skipString_unit hunit, skipString_unit hlast]

theorem stringBytes_settled {n : Nat} {got content : Bytes}
    (h : stringBytes n got bytes = .ok (content, rest)) {fuel : Nat}
    (hfuel : 2 * bytes.length ≤ fuel) :
    stringBytes fuel got bytes = .ok (content, rest) ∧ skipString fuel bytes = .ok ((), rest) := by
  induction n generalizing got bytes fuel with
  | zero => cases h
  | succ n ih =>
    rw [stringBytes_succ] at h
    obtain ⟨found, inner, hpiece, h⟩ := ok_of_bind h
    have hshorter := piece_consumes _ _ _ hpiece
    obtain ⟨fuel, rfl⟩ : ∃ k, fuel = k + 1 := ⟨fuel - 1, by omega⟩
    rw [stringBytes_succ, bind_ok hpiece]
    cases found with
    | none =>
      refine ⟨h, ?_⟩
      cases h
      cases isPiece_of_piece hpiece
      rfl
    | some bs =>
      obtain ⟨left, hleft, hskip⟩ := skipString_piece hpiece hfuel
      rw [hskip]
      exact ⟨(ih h (by omega)).1, (ih h hleft).2⟩

theorem string_settled {n : Nat} {s : String} (h : string n bytes = .ok (s, rest)) {fuel : Nat}
    (hfuel : 2 * bytes.length ≤ fuel) :
    string fuel bytes = .ok (s, rest) ∧ skipString fuel bytes = .ok ((), rest) := by
  obtain ⟨content, inner, hcontent, hs⟩ := ok_of_bind h
  have hinner : inner = rest := by
    cases htext : String.fromUTF8? ⟨content.toArray⟩ with
    | none =>
      rw [htext] at hs
      cases hs
    | some s =>
      rw [htext] at hs
      cases hs
      rfl
  obtain ⟨hreads, hskips⟩ := stringBytes_settled hcontent hfuel
  rw [string, bind_ok hreads]
  exact ⟨hs, hinner ▸ hskips⟩

/-! ### Numbers -/

theorem someDigits_below (fault other : Fault) : Below (someDigits fault) (someDigits other) :=
  .bind (.refl _) fun _ => .ite
    (fun _ _ h => by obtain ⟨_, _, -, hthrow⟩ := ok_of_bind h; cases hthrow) (.refl _)

/-- A number that is not cut off is the same, whatever the fault of one that is. -/
theorem literal_below (fault other : Fault) (negative : Bool) :
    Below (literal fault negative) (literal other negative) := by
  refine .bind (.bind (someDigits_below fault other) fun _ => .refl _) fun whole =>
    .bind (.bind (.refl _) fun point => ?_) fun fraction =>
      .bind (.bind (.refl _) fun mark => ?_) fun exponent => .refl _
  · cases point with
    | none => exact .refl _
    | some b => exact .bind (someDigits_below fault other) fun _ => .refl _
  · cases mark with
    | none => exact .refl _
    | some b => exact .bind (.refl _) fun _ => .bind (someDigits_below fault other) fun _ => .refl _

theorem literal_of_number {negative : Bool} {n : Number} (h : number negative bytes = .ok (n, rest)) :
    (discard (literal .malformed negative) : Reader Unit) bytes = .ok ((), rest) := by
  obtain ⟨l, inner, hl, hn⟩ := ok_of_bind h
  have hinner : inner = rest := by
    cases hnumber : l.number? with
    | none =>
      rw [hnumber] at hn
      cases hn
    | some n =>
      rw [hnumber] at hn
      cases hn
      rfl
  show (literal .malformed negative bytes >>= _) = _
  rw [literal_below _ .malformed _ _ _ hl, ← hinner]
  rfl

/-! ### Leaves -/

/-- Passes over a value that is neither array nor object, after its first byte. -/
def skipLeaf (fuel : Nat) (first : UInt8) : Reader Unit :=
  match Char.ofNat first.toNat with
  | 'n' => word ['u', 'l', 'l']
  | 't' => word ['r', 'u', 'e']
  | 'f' => word ['a', 'l', 's', 'e']
  | '"' => skipString fuel
  | '-' => discard (literal .malformed true)
  | _ => do
    if !isDigit first then throw .malformed
    putBack first
    discard (literal .malformed false)

theorem leaf_settled {n : Nat} {first : UInt8} {v : Json} (h : leaf n first bytes = .ok (v, rest))
    {fuel : Nat} (hfuel : 2 * bytes.length ≤ fuel) :
    leaf fuel first bytes = .ok (v, rest) ∧ skipLeaf fuel first bytes = .ok ((), rest) := by
  unfold leaf at h
  unfold leaf skipLeaf
  generalize Char.ofNat first.toNat = c at h ⊢
  split at h
  case h_1 | h_2 | h_3 =>
    refine ⟨h, ?_⟩
    obtain ⟨_, _, hword, hpure⟩ := ok_of_bind h
    cases hpure
    exact hword
  case h_4 =>
    obtain ⟨s, _, hstring, hpure⟩ := ok_of_bind h
    cases hpure
    obtain ⟨hreads, hskips⟩ := string_settled hstring hfuel
    exact ⟨bind_ok hreads _, hskips⟩
  case h_5 =>
    refine ⟨h, ?_⟩
    obtain ⟨_, _, hnumber, hpure⟩ := ok_of_bind h
    cases hpure
    exact literal_of_number hnumber
  case h_6 =>
    obtain ⟨hdigit, hread⟩ := ok_of_refuse h
    obtain ⟨_, _, hback, hread⟩ := ok_of_bind hread
    obtain ⟨_, _, hnumber, hpure⟩ := ok_of_bind hread
    cases hpure
    refine ⟨by simpa using h, ?_⟩
    simp only [if_neg hdigit]
    rw [bind_ok hback]
    exact literal_of_number hnumber

/-! ### Values -/

theorem skip_succ (fuel : Nat) : skip (fuel + 1) = nextMark >>= fun first =>
    if first = 91 then do if !(← takes 93) then skipItems fuel
    else if first = 123 then do if !(← takes 125) then skipMembers fuel
    else skipLeaf fuel first := by
  rw [skip]
  refine congrArg _ (funext fun first => ?_)
  by_cases harr : first = 91
  · subst harr
    rfl
  · by_cases hobj : first = 123
    · subst hobj
      rfl
    · rw [if_neg harr, if_neg hobj, skipLeaf]
      have hchar := @byte_of_char first
      generalize Char.ofNat first.toNat = c at hchar ⊢
      split
      · exact absurd (UInt8.toNat_inj.1 (hchar rfl)) harr
      · exact absurd (UInt8.toNat_inj.1 (hchar rfl)) hobj
      case h_3 | h_4 | h_5 | h_6 | h_7 => rfl
      case h_8 => simp [*]

variable {fuel room given : Nat} {inner : Bytes}

/-- With steps enough for the text, and either the levels given or enough for the text, the reader
takes the same from it, and the other passes over that. -/
structure Settled {α : Type} (reader : Nat → Nat → Reader α) (skipper : Nat → Reader Unit)
    (spare given : Nat) (bytes : Bytes) (a : α) (rest : Bytes) : Prop where
  reads : ∀ fuel room, 2 * bytes.length + spare ≤ fuel → min given bytes.length ≤ room →
    reader fuel room bytes = .ok (a, rest)
  skips : ∀ fuel, 2 * bytes.length + spare ≤ fuel → skipper fuel bytes = .ok ((), rest)

theorem Settled.of_succ {α : Type} {reader : Nat → Nat → Reader α} {skipper : Nat → Reader Unit}
    {spare given : Nat} {a : α} (hpos : 0 < 2 * bytes.length + spare)
    (hreads : ∀ fuel room, 2 * bytes.length + spare ≤ fuel + 1 → min given bytes.length ≤ room →
      reader (fuel + 1) room bytes = .ok (a, rest))
    (hskips : ∀ fuel, 2 * bytes.length + spare ≤ fuel + 1 →
      skipper (fuel + 1) bytes = .ok ((), rest)) :
    Settled reader skipper spare given bytes a rest := by
  constructor
  · intro fuel room hfuel hroom
    obtain ⟨fuel, rfl⟩ : ∃ k, fuel = k + 1 := ⟨fuel - 1, by omega⟩
    exact hreads fuel room hfuel hroom
  · intro fuel hfuel
    obtain ⟨fuel, rfl⟩ : ∃ k, fuel = k + 1 := ⟨fuel - 1, by omega⟩
    exact hskips fuel hfuel

theorem skip_array (h : nextMark bytes = .ok (91, inner)) : skip (fuel + 1) bytes =
    (takes 93 >>= fun closed => if (!closed) = true then skipItems fuel else pure ()) inner := by
  rw [skip_succ, bind_ok h]
  rfl

theorem skip_object (h : nextMark bytes = .ok (123, inner)) : skip (fuel + 1) bytes =
    (takes 125 >>= fun closed => if (!closed) = true then skipMembers fuel else pure ()) inner := by
  rw [skip_succ, bind_ok h]
  rfl

theorem skip_leaf {first : UInt8} (h : nextMark bytes = .ok (first, inner)) (harr : first ≠ 91)
    (hobj : first ≠ 123) : skip (fuel + 1) bytes = skipLeaf fuel first inner := by
  rw [skip_succ, bind_ok h, if_neg harr, if_neg hobj]

theorem key_settled {n : Nat} {k : String} (h : key n bytes = .ok (k, rest)) {fuel : Nat}
    (hfuel : 2 * bytes.length ≤ fuel) : key fuel bytes = .ok (k, rest) ∧
      (expect 34 >>= fun _ => skipString fuel) bytes = .ok ((), rest) := by
  obtain ⟨_, inner, hquote, hstring⟩ := ok_of_bind h
  have hinner := expect_consumes _ _ _ _ hquote
  obtain ⟨hreads, hskips⟩ := string_settled hstring (show 2 * inner.length ≤ fuel by omega)
  rw [key, bind_ok hquote, bind_ok hquote]
  exact ⟨hreads, hskips⟩

section

variable {n : Nat}
  (hvalue : ∀ {given bytes v rest}, value n given bytes = .ok (v, rest) →
    Settled value skip 0 given bytes v rest)
  (hvalues : ∀ {given bytes items rest}, values n given bytes = .ok (items, rest) →
    Settled values skipItems 1 given bytes items rest)
  (hmembers : ∀ {given bytes fields rest}, members n given bytes = .ok (fields, rest) →
    Settled members skipMembers 1 given bytes fields rest)

include hvalues hmembers in
theorem value_settled_succ {v : Json} (h : value (n + 1) given bytes = .ok (v, rest)) :
    Settled value skip 0 given bytes v rest := by
  obtain ⟨m, first, inner, hm, hfirst, hon⟩ := goesOn_of_value h
  obtain rfl : n = m := by omega
  have hmark := nextMark_consumes _ _ _ hfirst
  cases hon with
  | emptyArr _ htakes =>
    refine .of_succ (by omega) (fun fuel room hfuel hroom => ?_) fun fuel hfuel => ?_
    · rw [value_of_array hfirst (by omega), bind_ok htakes]
      rfl
    · rw [skip_array hfirst, bind_ok htakes]
      rfl
  | arr _ htakes hitems =>
    have hinner := takes_consumes _ _ _ _ htakes
    refine .of_succ (by omega) (fun fuel room hfuel hroom => ?_) fun fuel hfuel => ?_
    · rw [value_of_array hfirst (by omega), bind_ok htakes, if_neg Bool.false_ne_true,
        bind_ok ((hvalues hitems).reads fuel (room - 1) (by omega) (by omega))]
      rfl
    · rw [skip_array hfirst, bind_ok htakes]
      exact (hvalues hitems).skips fuel (by omega)
  | emptyObj _ htakes =>
    refine .of_succ (by omega) (fun fuel room hfuel hroom => ?_) fun fuel hfuel => ?_
    · rw [value_of_object hfirst (by omega), bind_ok htakes]
      rfl
    · rw [skip_object hfirst, bind_ok htakes]
      rfl
  | obj _ htakes hfields =>
    have hinner := takes_consumes _ _ _ _ htakes
    refine .of_succ (by omega) (fun fuel room hfuel hroom => ?_) fun fuel hfuel => ?_
    · rw [value_of_object hfirst (by omega), bind_ok htakes, if_neg Bool.false_ne_true,
        bind_ok ((hmembers hfields).reads fuel (room - 1) (by omega) (by omega))]
      rfl
    · rw [skip_object hfirst, bind_ok htakes]
      exact (hmembers hfields).skips fuel (by omega)
  | leaf h =>
    obtain ⟨harr, hobj⟩ := not_bracket_of_leaf h
    refine .of_succ (by omega) (fun fuel room hfuel hroom => ?_) fun fuel hfuel => ?_
    · rw [value_of_leaf hfirst harr hobj]
      exact (leaf_settled h (by omega)).1
    · rw [skip_leaf hfirst harr hobj]
      exact (leaf_settled h (by omega)).2

include hvalue hvalues in
theorem values_settled_succ {items : List Json} (h : values (n + 1) given bytes = .ok (items, rest)) :
    Settled values skipItems 1 given bytes items rest := by
  cases itemsGoOn_of_values h with
  | @item v afterValue hv more afterMark hmark items _ hitems =>
    have htaken := (consumes_all n).1 given _ _ _ hv
    have hmore := moreItems_consumes _ _ _ _ hmark
    refine .of_succ (by omega) (fun fuel room hfuel hroom => ?_) fun fuel hfuel => ?_
    · unfold values
      rw [bind_ok ((hvalue hv).reads fuel room (by omega) (by omega)), bind_ok hmark]
      cases more with
      | false =>
        cases hitems
        rfl
      | true =>
        rw [if_pos rfl, bind_ok ((hvalues hitems).reads fuel room (by omega) (by omega))]
        rfl
    · unfold skipItems
      rw [bind_ok ((hvalue hv).skips fuel (by omega)), bind_ok hmark]
      cases more with
      | false =>
        cases hitems
        rfl
      | true => exact (hvalues hitems).skips fuel (by omega)

include hvalue hmembers in
theorem members_settled_succ {fields : List (String × Json)}
    (h : members (n + 1) given bytes = .ok (fields, rest)) :
    Settled members skipMembers 1 given bytes fields rest := by
  cases membersGoOn_of_members h with
  | @member k afterKey hk afterColon hcolon v afterValue hv more afterMark hmark fields _ hfields =>
    have hname := key_consumes _ _ _ _ hk
    have hpoint := expect_consumes _ _ _ _ hcolon
    have htaken := (consumes_all n).1 given _ _ _ hv
    have hmore := moreItems_consumes _ _ _ _ hmark
    refine .of_succ (by omega) (fun fuel room hfuel hroom => ?_) fun fuel hfuel => ?_
    · unfold members
      rw [bind_ok (key_settled hk (by omega)).1, bind_ok hcolon,
        bind_ok ((hvalue hv).reads fuel room (by omega) (by omega)), bind_ok hmark]
      cases more with
      | false =>
        cases hfields
        rfl
      | true =>
        rw [if_pos rfl, bind_ok ((hmembers hfields).reads fuel room (by omega) (by omega))]
        rfl
    · obtain ⟨_, inner, hquote, hstring⟩ :=
        ok_of_bind (key_settled hk (show 2 * bytes.length ≤ fuel by omega)).2
      unfold skipMembers
      rw [bind_ok hquote, bind_ok hstring, bind_ok hcolon,
        bind_ok ((hvalue hv).skips fuel (by omega)), bind_ok hmark]
      cases more with
      | false =>
        cases hfields
        rfl
      | true => exact (hmembers hfields).skips fuel (by omega)

end

theorem settled_all (n : Nat) :
    (∀ {given bytes v rest}, value n given bytes = .ok (v, rest) →
      Settled value skip 0 given bytes v rest) ∧
    (∀ {given bytes items rest}, values n given bytes = .ok (items, rest) →
      Settled values skipItems 1 given bytes items rest) ∧
    ∀ {given bytes fields rest}, members n given bytes = .ok (fields, rest) →
      Settled members skipMembers 1 given bytes fields rest := by
  induction n with
  | zero => exact ⟨nofun, nofun, nofun⟩
  | succ n ih =>
    obtain ⟨hvalue, hvalues, hmembers⟩ := ih
    exact ⟨value_settled_succ hvalues hmembers, values_settled_succ hvalue hvalues,
      members_settled_succ hvalue hmembers⟩

end Screens.Json
