import Screens.Proofs.Json.Reading

/-! How much of a text is read.

Every reader takes bytes from the front of the text, if it takes anything (`Reader.Consumes`): a
value at least one (`consumes_all`). A string is read piece by piece, where a piece is the closing
quote, a byte, or an escape with all that belongs to it (`stringBytes_succ`). -/
namespace Screens.Json

namespace Reader

variable {α β : Type} {p q : Reader α} {f : α → Reader β} {j k : Nat}

/-- The reader takes at least so many bytes, if it takes anything. -/
def Consumes (p : Reader α) (k : Nat) : Prop :=
  ∀ bytes a rest, p bytes = .ok (a, rest) → rest.length + k ≤ bytes.length

theorem consumes_throw (fault : Fault) (k : Nat) : Consumes (throw fault : Reader α) k := by
  intro bytes a rest h
  cases h

theorem consumes_pure (a : α) : Consumes (pure a) 0 := by
  rintro bytes _ rest ⟨⟩
  exact Nat.le_refl _

theorem Consumes.mono (h : Consumes p k) (hle : j ≤ k) : Consumes p j := by
  intro bytes a rest ha
  have := h bytes a rest ha
  omega

theorem Consumes.bind (hp : Consumes p j) (hf : ∀ a, Consumes (f a) k) :
    Consumes (p >>= f) (j + k) := by
  intro bytes b rest h
  obtain ⟨a, inner, ha, hb⟩ := ok_of_bind h
  have := hp _ _ _ ha
  have := hf _ _ _ _ hb
  omega

theorem Consumes.ite {c : Prop} [Decidable c] (hthen : Consumes p k) (helse : Consumes q k) :
    Consumes (if c then p else q) k := by
  split
  · exact hthen
  · exact helse

end Reader

open Reader

variable {bytes rest : Bytes}

/-! ### Marks -/

theorem next_consumes : Consumes next 1 := by
  intro bytes b rest h
  rw [next_ok.1 h]
  exact Nat.le_refl _

theorem nextMark_consumes : Consumes nextMark 1 := by
  intro bytes b rest h
  have hlength := congrArg List.length (nextMark_ok.1 h)
  have hdrop := (List.dropWhile_sublist isSpace (l := bytes)).length_le
  simp only [List.length_cons] at hlength
  omega

theorem takes_consumes (mark : UInt8) : Consumes (takes mark) 0 := by
  intro bytes taken rest h
  have hdrop := (List.dropWhile_sublist isSpace (l := bytes)).length_le
  unfold takes at h
  split at h
  · rename_i heq
    rw [heq, List.length_cons] at hdrop
    split at h <;> cases h <;> omega
  · cases h
    exact Nat.le_refl _

theorem expect_consumes (mark : UInt8) : Consumes (expect mark) 1 :=
  (nextMark_consumes.bind fun _ => .ite (consumes_throw _ _) (consumes_pure _) : Consumes _ (1 + 0))

theorem moreItems_consumes (closing : UInt8) : Consumes (moreItems closing) 1 :=
  (nextMark_consumes.bind fun _ => .ite (consumes_pure _) (.ite (consumes_pure _)
    (consumes_throw _ _)) : Consumes _ (1 + 0))

/-! ### Strings -/

/-- What an escape stands for, after its backslash. -/
def escapeBytes : Reader Bytes := do
  let e ← next
  if e = 117 then return (String.singleton (← unicodeEscape)).toUTF8.toList
  match shortEscape? e with
  | some b => return [b]
  | none => throw .malformed

/-- The next bytes of a string, none at its closing quote. -/
def piece : Reader (Option Bytes) := do
  let b ← next
  if b = 34 then return none
  if b < 32 then throw .malformed
  if b = 92 then return some (← escapeBytes)
  return some [b]

theorem stringBytes_succ (fuel : Nat) (got : Bytes) : stringBytes (fuel + 1) got = piece >>= fun
    | none => pure got.reverse
    | some content => stringBytes fuel (content.reverse ++ got) := by
  rw [stringBytes, piece, bind_assoc]
  refine congrArg _ (funext fun b => ?_)
  dsimp only
  by_cases hquote : b = 34
  · simp [hquote]
  · by_cases hcontrol : b < 32
    · simp only [hquote, hcontrol, if_true, if_false]
      rfl
    · by_cases hescape : b = 92
      · subst hescape
        rw [if_neg (by decide), if_neg (by decide), if_neg (by decide), if_neg (by decide),
          if_neg (by decide), if_pos rfl, escapeBytes, bind_assoc, bind_assoc]
        refine congrArg _ (funext fun e => ?_)
        by_cases hunicode : e = 117
        · simp [hunicode]
        · cases hshort : shortEscape? e with
          | none =>
            simp only [hunicode, if_false]
            rfl
          | some b => simp [hunicode]
      · simp [hquote, hcontrol, hescape]

theorem hexEscape_consumes : Consumes hexEscape 4 := by
  intro bytes n rest h
  unfold hexEscape at h
  split at h
  · split at h
    · cases h
      simp
    · cases h
  · cases h

/-- An escaped character is one unit, or two with the mark of an escape between them. -/
theorem unicodeEscape_ok {c : Char} (h : unicodeEscape bytes = .ok (c, rest)) :
    ∃ n, hexEscape bytes = .ok (n, rest) ∨
      ∃ m inner, hexEscape bytes = .ok (n, 92 :: 117 :: inner) ∧ hexEscape inner = .ok (m, rest) := by
  unfold unicodeEscape at h
  obtain ⟨n, afterUnit, hunit, h⟩ := ok_of_bind h
  refine ⟨n, ?_⟩
  obtain ⟨-, h⟩ := ok_of_refuse h
  split at h
  · cases h
    exact .inl hunit
  · obtain ⟨b, afterMark, hmark, h⟩ := ok_of_bind h
    obtain ⟨hb, h⟩ := ok_of_refuse h
    obtain ⟨u, afterLetter, hletter, h⟩ := ok_of_bind h
    obtain ⟨hu, h⟩ := ok_of_refuse h
    obtain ⟨m, last, hlast, h⟩ := ok_of_bind h
    obtain ⟨-, h⟩ := ok_of_refuse h
    obtain rfl : last = rest := congrArg Prod.snd (Except.ok.inj h)
    obtain rfl := Decidable.not_not.1 hb
    obtain rfl := Decidable.not_not.1 hu
    obtain rfl := next_ok.1 hmark
    obtain rfl := next_ok.1 hletter
    exact .inr ⟨m, _, hunit, hlast⟩

/-- The escapes, and what they stand for. -/
inductive IsEscape : Bytes → Bytes → Bytes → Prop where
  | short {e b : UInt8} (hunicode : e ≠ 117) (h : shortEscape? e = some b) (rest : Bytes) :
    IsEscape (e :: rest) [b] rest
  | unicode {inner rest : Bytes} {c : Char} (h : unicodeEscape inner = .ok (c, rest)) :
    IsEscape (117 :: inner) (String.singleton c).toUTF8.toList rest

theorem isEscape_of_bytes {content : Bytes} (h : escapeBytes bytes = .ok (content, rest)) :
    IsEscape bytes content rest := by
  unfold escapeBytes at h
  obtain ⟨e, inner, hnext, hread⟩ := ok_of_bind h
  rw [next_ok.1 hnext]
  split at hread
  · subst e
    obtain ⟨c, last, hc, hpure⟩ := ok_of_bind hread
    cases hpure
    exact .unicode hc
  · rename_i hunicode
    cases hshort : shortEscape? e with
    | none =>
      rw [hshort] at hread
      cases hread
    | some b =>
      rw [hshort] at hread
      cases hread
      exact .short hunicode hshort rest

/-- The pieces of a string, and what they stand for. -/
inductive IsPiece : Bytes → Option Bytes → Bytes → Prop where
  | close (rest : Bytes) : IsPiece (34 :: rest) none rest
  | plain {b : UInt8} (hquote : b ≠ 34) (hcontrol : ¬ b < 32) (hescape : b ≠ 92) (rest : Bytes) :
    IsPiece (b :: rest) (some [b]) rest
  | escaped {inner content rest : Bytes} (h : IsEscape inner content rest) :
    IsPiece (92 :: inner) (some content) rest

theorem isPiece_of_piece {content : Option Bytes} (h : piece bytes = .ok (content, rest)) :
    IsPiece bytes content rest := by
  unfold piece at h
  obtain ⟨b, inner, hnext, hread⟩ := ok_of_bind h
  rw [next_ok.1 hnext]
  dsimp only at hread
  split at hread
  · subst b
    cases hread
    exact .close rest
  · rename_i hquote
    obtain ⟨hcontrol, hread⟩ := ok_of_refuse hread
    split at hread
    · subst b
      obtain ⟨found, last, hfound, hpure⟩ := ok_of_bind hread
      cases hpure
      exact .escaped (isEscape_of_bytes hfound)
    · cases hread
      exact .plain hquote hcontrol ‹_› rest

theorem unicodeEscape_consumes : Consumes unicodeEscape 4 := by
  intro bytes c rest h
  obtain ⟨n, hunit | ⟨m, more, hunit, hlast⟩⟩ := unicodeEscape_ok h
  · exact hexEscape_consumes _ _ _ hunit
  · have hfirst := hexEscape_consumes _ _ _ hunit
    have hsecond := hexEscape_consumes _ _ _ hlast
    simp only [List.length_cons] at hfirst
    omega

theorem piece_consumes : Consumes piece 1 := by
  intro bytes content rest h
  cases isPiece_of_piece h with
  | close | plain => exact Nat.le_refl _
  | escaped h => cases h with
    | short => simp
    | unicode h =>
      have := unicodeEscape_consumes _ _ _ h
      simp only [List.length_cons]
      omega

theorem stringBytes_consumes (fuel : Nat) (got : Bytes) : Consumes (stringBytes fuel got) 1 := by
  induction fuel generalizing got with
  | zero => exact consumes_throw _ _
  | succ fuel ih =>
    rw [stringBytes_succ]
    refine (piece_consumes.bind fun content => ?_ : Consumes _ (1 + 0))
    cases content with
    | none => exact consumes_pure _
    | some content => exact (ih _).mono (Nat.zero_le _)

theorem string_consumes (fuel : Nat) : Consumes (string fuel) 1 := by
  refine ((stringBytes_consumes fuel []).bind fun content => ?_ : Consumes _ (1 + 0))
  split
  · exact consumes_pure _
  · exact consumes_throw _ _

theorem key_consumes (fuel : Nat) : Consumes (key fuel) 1 :=
  ((expect_consumes 34).bind fun _ => string_consumes fuel).mono (by decide)

/-! ### Numbers -/

theorem takesOne_consumes (choices : List UInt8) : Consumes (takesOne choices) 0 := by
  intro bytes b rest h
  unfold takesOne at h
  split at h
  · split at h <;> cases h
    · simp
    · exact Nat.le_refl _
  · cases h
    exact Nat.le_refl _

theorem someDigits_consumes (atEnd : Fault) : Consumes (someDigits atEnd) 1 := by
  intro bytes run rest h
  obtain ⟨found, inner, hdigits, hrest⟩ := ok_of_bind h
  cases hdigits
  split at hrest
  · obtain ⟨_, _, -, hthrow⟩ := ok_of_bind hrest
    cases hthrow
  · rename_i hne
    cases hrest
    have hlength := congrArg List.length (List.takeWhile_append_dropWhile (p := isDigit) (l := bytes))
    rw [List.length_append] at hlength
    have hpos : 0 < (bytes.takeWhile isDigit).length := by simpa [List.length_pos_iff] using hne
    omega

theorem wholeDigits_consumes (atEnd : Fault) : Consumes (wholeDigits atEnd) 1 :=
  ((someDigits_consumes atEnd).bind fun _ =>
    .ite ((consumes_throw _ 0).bind fun _ => consumes_pure _) (consumes_pure _) : Consumes _ (1 + 0))

theorem fractionDigits_consumes (atEnd : Fault) : Consumes (fractionDigits atEnd) 0 := by
  refine ((takesOne_consumes _).bind fun point => ?_ : Consumes _ (0 + 0))
  cases point with
  | none => exact consumes_pure _
  | some b => exact (((someDigits_consumes atEnd).bind fun _ => consumes_pure _).mono (Nat.zero_le _))

theorem exponentValue_consumes (atEnd : Fault) : Consumes (exponentValue atEnd) 0 := by
  refine ((takesOne_consumes _).bind fun mark => ?_ : Consumes _ (0 + 0))
  cases mark with
  | none => exact consumes_pure _
  | some b =>
    exact ((takesOne_consumes _).bind fun _ => (someDigits_consumes atEnd).bind fun _ =>
      consumes_pure _).mono (Nat.zero_le _)

theorem literal_consumes (atEnd : Fault) (negative : Bool) : Consumes (literal atEnd negative) 1 :=
  ((wholeDigits_consumes atEnd).bind fun _ => (fractionDigits_consumes atEnd).bind fun _ =>
    (exponentValue_consumes atEnd).bind fun _ => consumes_pure _ : Consumes _ (1 + (0 + (0 + 0))))

theorem number_consumes (negative : Bool) : Consumes (number negative) 1 := by
  refine ((literal_consumes _ negative).bind fun l => ?_ : Consumes _ (1 + 0))
  cases l.number? with
  | none => exact consumes_throw _ _
  | some n => exact consumes_pure _

/-! ### Values -/

theorem word_consumes (letters : List Char) : Consumes (word letters) 0 := by
  induction letters with
  | nil => exact consumes_pure _
  | cons c letters ih =>
    exact (next_consumes.bind fun _ => .ite (((consumes_throw _ 0).bind fun _ => ih)) ih).mono
      (Nat.zero_le _)

theorem leaf_consumes (fuel : Nat) (first : UInt8) : Consumes (leaf fuel first) 0 := by
  unfold leaf
  split
  · exact (word_consumes _).bind fun _ => consumes_pure _
  · exact (word_consumes _).bind fun _ => consumes_pure _
  · exact (word_consumes _).bind fun _ => consumes_pure _
  · exact ((string_consumes fuel).bind fun _ => consumes_pure _).mono (Nat.zero_le _)
  · exact ((number_consumes true).bind fun _ => consumes_pure _).mono (Nat.zero_le _)
  · intro bytes v rest h
    obtain ⟨-, h⟩ := ok_of_refuse h
    obtain ⟨_, inner, hback, h⟩ := ok_of_bind h
    cases hback
    have := ((number_consumes false).bind fun _ => consumes_pure _) _ _ _ h
    simp only [List.length_cons] at this
    omega

theorem consumes_all (fuel : Nat) : (∀ room, Consumes (value fuel room) 1) ∧
    (∀ room, Consumes (values fuel room) 1) ∧ ∀ room, Consumes (members fuel room) 1 := by
  induction fuel with
  | zero =>
    exact ⟨fun _ => consumes_throw _ _, fun _ => consumes_throw _ _, fun _ => consumes_throw _ _⟩
  | succ fuel ih =>
    obtain ⟨hvalue, hvalues, hmembers⟩ := ih
    refine ⟨fun room => ?_, fun room => ?_, fun room => ?_⟩
    · intro bytes v rest h
      obtain ⟨m, first, inner, hm, hfirst, hon⟩ := goesOn_of_value h
      obtain rfl : fuel = m := by omega
      have hmark := nextMark_consumes _ _ _ hfirst
      cases hon with
      | emptyArr _ htakes | emptyObj _ htakes =>
        have := takes_consumes _ _ _ _ htakes
        omega
      | arr _ htakes hitems =>
        have := takes_consumes _ _ _ _ htakes
        have := hvalues _ _ _ _ hitems
        omega
      | obj _ htakes hfields =>
        have := takes_consumes _ _ _ _ htakes
        have := hmembers _ _ _ _ hfields
        omega
      | leaf h =>
        have := leaf_consumes _ _ _ _ _ h
        omega
    · unfold values
      exact ((hvalue room).bind fun v => (moreItems_consumes 93).bind fun more =>
        .ite (((hvalues room).bind fun _ => consumes_pure _).mono (Nat.zero_le _))
          (consumes_pure _) : Consumes _ (1 + (1 + 0))).mono (by decide)
    · unfold members
      exact ((key_consumes fuel).bind fun k => (expect_consumes 58).bind fun _ =>
        (hvalue room).bind fun v => (moreItems_consumes 125).bind fun more =>
        .ite (((hmembers room).bind fun _ => consumes_pure _).mono (Nat.zero_le _))
          (consumes_pure _) : Consumes _ (1 + (1 + (1 + (1 + 0))))).mono (by decide)

end Screens.Json
