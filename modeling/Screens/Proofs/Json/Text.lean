import Screens.Json.Printer
import Screens.Proofs.Json.Numbers

/-! Reading what was printed.

A string is read back from its quoted form, whatever is escaped in it (`string_quoted`), and
a value from its compact text, wherever that stands, if its numbers are
(`value_chars`). -/
namespace Screens.Json

open Reader
open Utf8 (bytes bytes_append bytes_cons)

/-! ### Strings -/

section Strings

variable {fuel : Nat} {got rest : Bytes}

/-- A byte that neither ends a string nor starts an escape stands for itself. -/
theorem stringBytes_plain {b : UInt8} (hquote : b ≠ 34) (hcontrol : ¬ b < 32) (hescape : b ≠ 92) :
    stringBytes (fuel + 1) got (b :: rest) = stringBytes fuel (b :: got) rest := by
  rw [stringBytes, bind_ok (next_ok.2 rfl)]
  dsimp only
  rw [if_neg hquote, if_neg hcontrol, if_pos hescape]

theorem stringBytes_plains {bs : Bytes}
    (h : ∀ b ∈ bs, b ≠ 34 ∧ ¬ b < 32 ∧ b ≠ 92) :
    stringBytes (fuel + bs.length) got (bs ++ rest) = stringBytes fuel (bs.reverse ++ got) rest := by
  induction bs generalizing got with
  | nil => rfl
  | cons b bs ih =>
    obtain ⟨hquote, hcontrol, hescape⟩ := h b List.mem_cons_self
    rw [List.cons_append, List.length_cons, ← Nat.add_assoc,
      stringBytes_plain hquote hcontrol hescape, ih fun d hd => h d (List.mem_cons_of_mem _ hd)]
    simp

theorem stringBytes_short {e b : UInt8} (h : shortEscape? e = some b) :
    stringBytes (fuel + 1) got (92 :: e :: rest) = stringBytes fuel (b :: got) rest := by
  have hunicode : e ≠ 117 := by
    rintro rfl
    cases h
  rw [stringBytes, bind_ok (next_ok.2 rfl)]
  dsimp only
  rw [if_neg (by decide), if_neg (by decide), if_neg (by decide), bind_ok (next_ok.2 rfl),
    if_neg hunicode, h]

theorem unicodeEscape_control {n : Nat} (h : n < 32) :
    unicodeEscape (48 :: 48 :: UInt8.ofNat (hexDigit (n / 16)).toNat ::
      UInt8.ofNat (hexDigit (n % 16)).toNat :: rest) = .ok (Char.ofNat n, rest) := by
  have hunit : ∀ n < 32, hexUnit? 48 48 (UInt8.ofNat (hexDigit (n / 16)).toNat)
      (UInt8.ofNat (hexDigit (n % 16)).toNat) = some n := by decide
  have hescape : hexEscape (48 :: 48 :: UInt8.ofNat (hexDigit (n / 16)).toNat ::
      UInt8.ofNat (hexDigit (n % 16)).toNat :: rest) = .ok (n, rest) := by
    rw [hexEscape, hunit n h]
  have hsurrogate : isTrailing n = false ∧ isLeading n = false := by
    simp [isTrailing, isLeading]
    omega
  rw [unicodeEscape, bind_ok hescape]
  dsimp only
  rw [hsurrogate.1, hsurrogate.2]
  rfl

theorem stringBytes_unicode {c : Char} {escaped : Bytes}
    (h : unicodeEscape escaped = .ok (c, rest)) :
    stringBytes (fuel + 1) got (92 :: 117 :: escaped) =
      stringBytes fuel ((String.utf8EncodeChar c).reverse ++ got) rest := by
  have hchar : (String.singleton c).toUTF8.toList = String.utf8EncodeChar c := by
    rw [String.singleton_eq_ofList, Utf8.toUTF8_toList, bytes_cons, Utf8.bytes_nil, List.append_nil]
  rw [stringBytes, bind_ok (next_ok.2 rfl)]
  dsimp only
  rw [if_neg (by decide), if_neg (by decide), if_neg (by decide), bind_ok (next_ok.2 rfl),
    if_pos rfl, bind_ok h, hchar]

/-- Read with enough steps, the form of a character in a string gives its bytes. -/
def Gives (form content : Bytes) : Prop :=
  ∀ (fuel : Nat) (got rest : Bytes), ∃ more, fuel ≤ more ∧
    stringBytes (fuel + form.length) got (form ++ rest) =
      stringBytes more (content.reverse ++ got) rest

theorem gives_short {e b : UInt8} (h : shortEscape? e = some b) : Gives [92, e] [b] :=
  fun fuel _ _ => ⟨fuel + 1, Nat.le_succ fuel, stringBytes_short h⟩

theorem gives_control {c : Char} (h : c.toNat < 32) :
    Gives (bytes ['\\', 'u', '0', '0', hexDigit (c.toNat / 16), hexDigit (c.toNat % 16)])
      (String.utf8EncodeChar c) := by
  have hdigit : ∀ n < 16, String.utf8EncodeChar (hexDigit n) = [UInt8.ofNat (hexDigit n).toNat] := by
    decide
  have hbytes : bytes ['\\', 'u', '0', '0', hexDigit (c.toNat / 16), hexDigit (c.toNat % 16)] =
      [92, 117, 48, 48, UInt8.ofNat (hexDigit (c.toNat / 16)).toNat,
        UInt8.ofNat (hexDigit (c.toNat % 16)).toNat] := by
    simp only [bytes_cons, Utf8.bytes_nil, hdigit _ (show c.toNat / 16 < 16 by omega),
      hdigit _ (show c.toNat % 16 < 16 by omega)]
    rfl
  intro fuel got rest
  refine ⟨fuel + 5, Nat.le_add_right fuel 5, ?_⟩
  rw [hbytes]
  have hescape : unicodeEscape (48 :: 48 :: UInt8.ofNat (hexDigit (c.toNat / 16)).toNat ::
      UInt8.ofNat (hexDigit (c.toNat % 16)).toNat :: rest) = .ok (c, rest) := by
    rw [unicodeEscape_control h, Char.ofNat_toNat]
  exact stringBytes_unicode hescape

theorem gives_plain {c : Char} (hquote : c ≠ '"') (hescape : c ≠ '\\') (hcontrol : ¬ c.toNat < 32) :
    Gives (bytes [c]) (String.utf8EncodeChar c) := by
  have hbytes : bytes [c] = String.utf8EncodeChar c := by rw [bytes_cons, Utf8.bytes_nil, List.append_nil]
  have hplain : ∀ b ∈ String.utf8EncodeChar c, b ≠ 34 ∧ ¬ b < 32 ∧ b ≠ 92 := by
    have hnat : ∀ b ∈ String.utf8EncodeChar c, b.toNat ≠ 34 ∧ ¬ b.toNat < 32 ∧ b.toNat ≠ 92 := by
      intro b hb
      rcases Nat.lt_or_ge c.toNat 128 with hascii | hwide
      · rw [Utf8.encode_of_ascii hascii, List.mem_singleton] at hb
        have hbyte : b.toNat = c.toNat := by
          rw [hb, UInt8.toNat_ofNat']
          omega
        rw [hbyte]
        exact ⟨fun h => hquote (Char.toNat_inj.1 h), hcontrol,
          fun h => hescape (Char.toNat_inj.1 h)⟩
      · have := Utf8.toNat_of_mem_encode hwide hb
        omega
    intro b hb
    obtain ⟨hquote, hcontrol, hescape⟩ := hnat b hb
    exact ⟨ne_of_apply_ne UInt8.toNat hquote, hcontrol, ne_of_apply_ne UInt8.toNat hescape⟩
  intro fuel got rest
  rw [hbytes]
  exact ⟨fuel, Nat.le_refl fuel, stringBytes_plains hplain⟩

theorem gives_escape (c : Char) : Gives (bytes (escape c)) (String.utf8EncodeChar c) := by
  have hchar {n : Nat} (h : c.toNat = n) : c = Char.ofNat n := h ▸ (Char.ofNat_toNat c).symm
  unfold escape
  split_ifs with hquote hescape hnewline hreturn htab hback hfeed hcontrol
  · subst hquote
    exact gives_short (e := 34) rfl
  · subst hescape
    exact gives_short (e := 92) rfl
  · exact hnewline ▸ gives_short (e := 110) rfl
  · exact hreturn ▸ gives_short (e := 114) rfl
  · exact htab ▸ gives_short (e := 116) rfl
  · exact hchar hback ▸ gives_short (e := 98) rfl
  · exact hchar hfeed ▸ gives_short (e := 102) rfl
  · exact gives_control hcontrol
  · exact gives_plain hquote hescape hcontrol

theorem stringBytes_escaped (cs : List Char) {fuel : Nat} (got rest : Bytes)
    (hfuel : (bytes (cs.flatMap escape)).length < fuel) :
    stringBytes fuel got (bytes (cs.flatMap escape) ++ 34 :: rest) =
      .ok (got.reverse ++ bytes cs, rest) := by
  induction cs generalizing fuel got with
  | nil =>
    obtain ⟨fuel, rfl⟩ : ∃ k, fuel = k + 1 := ⟨fuel - 1, by omega⟩
    rw [List.flatMap_nil, Utf8.bytes_nil, List.nil_append, List.append_nil, stringBytes,
      bind_ok (next_ok.2 rfl)]
    rfl
  | cons c cs ih =>
    rw [List.flatMap_cons, bytes_append, List.length_append] at hfuel
    obtain ⟨later, rfl⟩ : ∃ k, fuel = k + (bytes (escape c)).length :=
      ⟨fuel - (bytes (escape c)).length, by omega⟩
    obtain ⟨more, hmore, hgives⟩ := gives_escape c later got (bytes (cs.flatMap escape) ++ 34 :: rest)
    rw [List.flatMap_cons, bytes_append, List.append_assoc, hgives, ih _ (by omega), bytes_cons]
    simp

/-- A string is read back from its quoted form, after the opening quote. -/
theorem string_quoted (s : String) {fuel : Nat} (rest : Bytes)
    (hfuel : (bytes (quoted s)).length ≤ fuel) :
    ∃ inner, bytes (quoted s) = 34 :: inner ∧ string fuel (inner ++ rest) = .ok (s, rest) := by
  have hquoted : bytes (quoted s) = 34 :: (bytes (s.toList.flatMap escape) ++ [34]) := by
    rw [quoted, bytes_append, bytes_append]
    rfl
  refine ⟨_, hquoted, ?_⟩
  rw [hquoted, List.length_cons, List.length_append] at hfuel
  have hread : stringBytes fuel [] (bytes (s.toList.flatMap escape) ++ 34 :: rest) =
      .ok (bytes s.toList, rest) := stringBytes_escaped s.toList [] rest (by omega)
  have htext : String.fromUTF8? ⟨(bytes s.toList).toArray⟩ = some s := Utf8.text?_bytes s
  rw [List.append_assoc, string, List.singleton_append, bind_ok hread]
  rw [htext]
  rfl

end Strings

/-! ### Values -/

mutual

/-- The numbers in a value. -/
def numbers : Json → List Number
  | num n => [n]
  | arr items => numbersOf items
  | obj fields => numbersIn fields
  | null | bool _ | str _ => []

def numbersOf : List Json → List Number
  | [] => []
  | v :: rest => v.numbers ++ numbersOf rest

def numbersIn : List (String × Json) → List Number
  | [] => []
  | (_, v) :: rest => v.numbers ++ numbersIn rest

end

theorem takes_of_ne {bytes rest : Bytes} {b mark : UInt8} (h : nextMark bytes = .ok (b, rest))
    (hne : b ≠ mark) : takes mark bytes = .ok (false, bytes) := by
  rw [takes, nextMark_ok.1 h]
  exact if_neg hne

theorem takes_cons {mark : UInt8} (h : isSpace mark = false) (rest : Bytes) :
    takes mark (mark :: rest) = .ok (true, rest) := by
  rw [takes, List.dropWhile_cons_of_neg (by simp [h])]
  exact if_pos rfl

theorem moreItems_comma (closing : UInt8) (h : closing ≠ 44) (rest : Bytes) :
    moreItems closing (44 :: rest) = .ok (true, rest) := by
  rw [moreItems, bind_ok (nextMark_cons rfl rest), if_neg h.symm]
  rfl

theorem moreItems_closing {closing : UInt8} (h : isSpace closing = false) (rest : Bytes) :
    moreItems closing (closing :: rest) = .ok (false, rest) := by
  rw [moreItems, bind_ok (nextMark_cons h rest), if_pos rfl]
  rfl

theorem ends_cons {b : UInt8} (h : isNumeral b = false) (rest : Bytes) : Ends (b :: rest) := by
  rintro _ ⟨⟩
  exact h

/-! After its opening bracket an array is closed at once, or its items are read; so with an
object. -/

section Brackets

variable {fuel room : Nat} {inner rest : Bytes}

theorem value_arr_nil (hroom : room ≠ 0) :
    value (fuel + 1) room (91 :: 93 :: rest) = .ok (.arr [], rest) := by
  rw [value_of_array (nextMark_cons rfl _) hroom, bind_ok (takes_cons rfl rest)]
  rfl

theorem value_arr {items : List Json} (hroom : room ≠ 0)
    (hopen : takes 93 inner = .ok (false, inner))
    (h : values fuel (room - 1) inner = .ok (items, rest)) :
    value (fuel + 1) room (91 :: inner) = .ok (.arr items, rest) := by
  rw [value_of_array (nextMark_cons rfl inner) hroom, bind_ok hopen, if_neg Bool.false_ne_true,
    bind_ok h]
  rfl

theorem value_obj_nil (hroom : room ≠ 0) :
    value (fuel + 1) room (123 :: 125 :: rest) = .ok (.obj [], rest) := by
  rw [value_of_object (nextMark_cons rfl _) hroom, bind_ok (takes_cons rfl rest)]
  rfl

theorem value_obj {fields : List (String × Json)} (hroom : room ≠ 0)
    (hopen : takes 125 inner = .ok (false, inner))
    (h : members fuel (room - 1) inner = .ok (fields, rest)) :
    value (fuel + 1) room (123 :: inner) = .ok (.obj fields, rest) := by
  rw [value_of_object (nextMark_cons rfl inner) hroom, bind_ok hopen, if_neg Bool.false_ne_true,
    bind_ok h]
  rfl

theorem value_leaf {b : UInt8} {v : Json} (hspace : isSpace b = false) (harr : b ≠ 91)
    (hobj : b ≠ 123) (h : leaf fuel b inner = .ok (v, rest)) :
    value (fuel + 1) room (b :: inner) = .ok (v, rest) := by
  rw [value_of_leaf (nextMark_cons hspace inner) harr hobj, h]

end Brackets

theorem bytes_arr (items : List Json) :
    bytes (arr items).chars = 91 :: (bytes (itemsChars items) ++ [93]) := by
  rw [chars, bytes_append, bytes_append]
  rfl

theorem bytes_obj (fields : List (String × Json)) :
    bytes (obj fields).chars = 123 :: (bytes (fieldsChars fields) ++ [125]) := by
  rw [chars, bytes_append, bytes_append]
  rfl

theorem bytes_items_cons (v w : Json) (rest : List Json) :
    bytes (itemsChars (v :: w :: rest)) = bytes v.chars ++ 44 :: bytes (itemsChars (w :: rest)) := by
  rw [itemsChars, bytes_append, bytes_append, List.append_assoc]
  rfl

theorem bytes_items_singleton (v : Json) : bytes (itemsChars [v]) = bytes v.chars := by
  simp [itemsChars]

theorem bytes_fields_cons (k : String) (v : Json) (m : String × Json)
    (rest : List (String × Json)) :
    bytes (fieldsChars ((k, v) :: m :: rest)) =
      bytes (quoted k) ++ 58 :: (bytes v.chars ++ 44 :: bytes (fieldsChars (m :: rest))) := by
  rw [fieldsChars, bytes_append, bytes_append, bytes_append, bytes_append, List.append_assoc,
    List.append_assoc, List.append_assoc]
  rfl

theorem bytes_fields_singleton (k : String) (v : Json) :
    bytes (fieldsChars [(k, v)]) = bytes (quoted k) ++ 58 :: bytes v.chars := by
  simp [fieldsChars]
  rfl

/-- A key, its quotes and all. -/
theorem key_quoted (k : String) {fuel : Nat} (rest : Bytes)
    (hfuel : (bytes (quoted k)).length ≤ fuel) :
    key fuel (bytes (quoted k) ++ rest) = .ok (k, rest) := by
  obtain ⟨inner, hquoted, hread⟩ := string_quoted k rest hfuel
  have hexpect : expect 34 (34 :: (inner ++ rest)) = .ok ((), inner ++ rest) := by
    rw [expect, bind_ok (nextMark_cons rfl _)]
    rfl
  rw [hquoted, List.cons_append, key, bind_ok hexpect, hread]

/-- No object is closed where a key comes next. -/
theorem takes_quoted (k : String) (rest : Bytes) :
    takes 125 (bytes (quoted k) ++ rest) = .ok (false, bytes (quoted k) ++ rest) := by
  obtain ⟨inner, hquoted, -⟩ := string_quoted k rest (Nat.le_refl _)
  rw [hquoted]
  exact takes_of_ne (nextMark_cons rfl _) (by decide)

theorem expect_colon (rest : Bytes) : expect 58 (58 :: rest) = .ok ((), rest) := by
  rw [expect, bind_ok (nextMark_cons rfl rest)]
  rfl

mutual

/-- A value is read back from the front of its text. -/
theorem value_chars : (v : Json) → (∀ n ∈ v.numbers, n.ReadsBack) →
    ∀ {fuel room : Nat} {rest : Bytes}, v.depth ≤ room → 2 * (bytes v.chars).length ≤ fuel →
      Ends rest → value fuel room (bytes v.chars ++ rest) = .ok (v, rest)
  | null, _, fuel, room, rest, _, hfuel, _ => by
    have hlength : (bytes null.chars).length = 4 := rfl
    obtain ⟨fuel, rfl⟩ : ∃ k, fuel = k + 1 := ⟨fuel - 1, by omega⟩
    exact value_leaf (b := 110) rfl (by decide) (by decide) rfl
  | bool true, _, fuel, room, rest, _, hfuel, _ => by
    have hlength : (bytes (bool true).chars).length = 4 := rfl
    obtain ⟨fuel, rfl⟩ : ∃ k, fuel = k + 1 := ⟨fuel - 1, by omega⟩
    exact value_leaf (b := 116) rfl (by decide) (by decide) rfl
  | bool false, _, fuel, room, rest, _, hfuel, _ => by
    have hlength : (bytes (bool false).chars).length = 5 := rfl
    obtain ⟨fuel, rfl⟩ : ∃ k, fuel = k + 1 := ⟨fuel - 1, by omega⟩
    exact value_leaf (b := 102) rfl (by decide) (by decide) rfl
  | num n, hnum, fuel, room, rest, _, hfuel, hrest => by
    have hback := hnum n List.mem_cons_self
    have hlength : 0 < (bytes n.chars).length := by
      refine List.length_pos_of_ne_nil fun hnil => ?_
      rw [Number.ReadsBack, hnil] at hback
      cases hback
    rw [chars] at hfuel ⊢
    obtain ⟨fuel, rfl⟩ : ∃ k, fuel = k + 1 := ⟨fuel - 1, by omega⟩
    exact value_of_readsBack hback fuel room hrest
  | str s, _, fuel, room, rest, _, hfuel, _ => by
    rw [chars] at hfuel ⊢
    obtain ⟨inner, hquoted, hread⟩ :=
      string_quoted s rest (by omega : (bytes (quoted s)).length ≤ fuel - 1)
    rw [hquoted, List.length_cons] at hfuel
    obtain ⟨fuel, rfl⟩ : ∃ k, fuel = k + 1 := ⟨fuel - 1, by omega⟩
    have hleaf : leaf fuel 34 = string fuel >>= fun s => pure (.str s) := rfl
    rw [hquoted]
    refine value_leaf rfl (by decide) (by decide) ?_
    rw [hleaf]
    exact bind_ok hread _
  | arr [], _, fuel, room, rest, hroom, hfuel, _ => by
    rw [bytes_arr, List.length_cons] at hfuel
    obtain ⟨fuel, rfl⟩ : ∃ k, fuel = k + 1 := ⟨fuel - 1, by omega⟩
    rw [depth] at hroom
    exact value_arr_nil (by omega)
  | arr (v :: items), hnum, fuel, room, rest, hroom, hfuel, _ => by
    rw [bytes_arr, List.length_cons, List.length_append] at hfuel
    rw [depth] at hroom
    obtain ⟨fuel, rfl⟩ : ∃ k, fuel = k + 1 := ⟨fuel - 1, by omega⟩
    have hlevels : depthItems (v :: items) ≤ room - 1 := by omega
    have hsteps : 2 * (bytes (itemsChars (v :: items))).length + 1 ≤ fuel := by omega
    obtain ⟨hopen, hvalues⟩ :=
      values_chars (v :: items) (List.cons_ne_nil v items) hnum hlevels hsteps rest
    rw [bytes_arr, List.cons_append, List.append_assoc]
    exact value_arr (by omega) hopen hvalues
  | obj [], _, fuel, room, rest, hroom, hfuel, _ => by
    rw [bytes_obj, List.length_cons] at hfuel
    obtain ⟨fuel, rfl⟩ : ∃ k, fuel = k + 1 := ⟨fuel - 1, by omega⟩
    rw [depth] at hroom
    exact value_obj_nil (by omega)
  | obj (m :: fields), hnum, fuel, room, rest, hroom, hfuel, _ => by
    rw [bytes_obj, List.length_cons, List.length_append] at hfuel
    rw [depth] at hroom
    obtain ⟨fuel, rfl⟩ : ∃ k, fuel = k + 1 := ⟨fuel - 1, by omega⟩
    have hlevels : depthFields (m :: fields) ≤ room - 1 := by omega
    have hsteps : 2 * (bytes (fieldsChars (m :: fields))).length + 1 ≤ fuel := by omega
    obtain ⟨hopen, hmembers⟩ :=
      members_chars (m :: fields) (List.cons_ne_nil m fields) hnum hlevels hsteps rest
    rw [bytes_obj, List.cons_append, List.append_assoc]
    exact value_obj (by omega) hopen hmembers

theorem values_chars : (items : List Json) → items ≠ [] → (∀ n ∈ numbersOf items, n.ReadsBack) →
    ∀ {fuel room : Nat}, depthItems items ≤ room →
      2 * (bytes (itemsChars items)).length + 1 ≤ fuel → ∀ rest : Bytes,
      takes 93 (bytes (itemsChars items) ++ 93 :: rest) =
        .ok (false, bytes (itemsChars items) ++ 93 :: rest) ∧
      values fuel room (bytes (itemsChars items) ++ 93 :: rest) = .ok (items, rest)
  | [], hne, _, _, _, _, _, _ => absurd rfl hne
  | [v], _, hnum, fuel, room, hroom, hfuel, rest => by
    rw [bytes_items_singleton] at hfuel ⊢
    rw [depthItems] at hroom
    obtain ⟨fuel, rfl⟩ : ∃ k, fuel = k + 1 := ⟨fuel - 1, by omega⟩
    have hvalue : value fuel room (bytes v.chars ++ 93 :: rest) = .ok (v, 93 :: rest) :=
      value_chars v (fun n hn => hnum n (List.mem_append_left _ hn)) (by omega) (by omega)
        (ends_cons rfl rest)
    obtain ⟨first, inner, hfirst, hne, -⟩ := first_of_value hvalue
    refine ⟨takes_of_ne hfirst hne, ?_⟩
    rw [values, bind_ok hvalue, bind_ok (moreItems_closing rfl rest)]
    rfl
  | v :: w :: items, _, hnum, fuel, room, hroom, hfuel, rest => by
    rw [bytes_items_cons, List.length_append, List.length_cons] at hfuel
    rw [depthItems] at hroom
    obtain ⟨fuel, rfl⟩ : ∃ k, fuel = k + 1 := ⟨fuel - 1, by omega⟩
    have hvalue : value fuel room (bytes v.chars ++ 44 ::
        (bytes (itemsChars (w :: items)) ++ 93 :: rest)) =
          .ok (v, 44 :: (bytes (itemsChars (w :: items)) ++ 93 :: rest)) :=
      value_chars v (fun n hn => hnum n (List.mem_append_left _ hn)) (by omega) (by omega)
        (ends_cons rfl _)
    have hrest : values fuel room (bytes (itemsChars (w :: items)) ++ 93 :: rest) =
        .ok (w :: items, rest) :=
      (values_chars (w :: items) (List.cons_ne_nil w items)
        (fun n hn => hnum n (List.mem_append_right _ hn)) (by omega) (by omega) rest).2
    obtain ⟨first, inner, hfirst, hne, -⟩ := first_of_value hvalue
    rw [bytes_items_cons, List.append_assoc, List.cons_append]
    refine ⟨takes_of_ne hfirst hne, ?_⟩
    rw [values, bind_ok hvalue, bind_ok (moreItems_comma 93 (by decide) _), if_pos rfl,
      bind_ok hrest]
    rfl

theorem members_chars : (fields : List (String × Json)) → fields ≠ [] →
    (∀ n ∈ numbersIn fields, n.ReadsBack) →
    ∀ {fuel room : Nat}, depthFields fields ≤ room →
      2 * (bytes (fieldsChars fields)).length + 1 ≤ fuel → ∀ rest : Bytes,
      takes 125 (bytes (fieldsChars fields) ++ 125 :: rest) =
        .ok (false, bytes (fieldsChars fields) ++ 125 :: rest) ∧
      members fuel room (bytes (fieldsChars fields) ++ 125 :: rest) = .ok (fields, rest)
  | [], hne, _, _, _, _, _, _ => absurd rfl hne
  | [(k, v)], _, hnum, fuel, room, hroom, hfuel, rest => by
    rw [bytes_fields_singleton, List.length_append, List.length_cons] at hfuel
    rw [depthFields] at hroom
    obtain ⟨fuel, rfl⟩ : ∃ k, fuel = k + 1 := ⟨fuel - 1, by omega⟩
    have hkey : key fuel (bytes (quoted k) ++ 58 :: (bytes v.chars ++ 125 :: rest)) =
        .ok (k, 58 :: (bytes v.chars ++ 125 :: rest)) := key_quoted k _ (by omega)
    have hvalue : value fuel room (bytes v.chars ++ 125 :: rest) = .ok (v, 125 :: rest) :=
      value_chars v (fun n hn => hnum n (List.mem_append_left _ hn)) (by omega) (by omega)
        (ends_cons rfl rest)
    rw [bytes_fields_singleton, List.append_assoc, List.cons_append]
    refine ⟨takes_quoted k _, ?_⟩
    rw [members, bind_ok hkey, bind_ok (expect_colon _), bind_ok hvalue,
      bind_ok (moreItems_closing rfl rest)]
    rfl
  | (k, v) :: m :: fields, _, hnum, fuel, room, hroom, hfuel, rest => by
    rw [bytes_fields_cons, List.length_append, List.length_cons, List.length_append,
      List.length_cons] at hfuel
    rw [depthFields] at hroom
    obtain ⟨fuel, rfl⟩ : ∃ k, fuel = k + 1 := ⟨fuel - 1, by omega⟩
    rw [bytes_fields_cons, List.append_assoc, List.cons_append, List.append_assoc, List.cons_append]
    -- What comes after the value: a comma, the other members and the closing bracket.
    obtain ⟨later, hlater⟩ : ∃ later, later = bytes (fieldsChars (m :: fields)) ++ 125 :: rest :=
      ⟨_, rfl⟩
    rw [← hlater]
    have hkey : key fuel (bytes (quoted k) ++ 58 :: (bytes v.chars ++ 44 :: later)) =
        .ok (k, 58 :: (bytes v.chars ++ 44 :: later)) := key_quoted k _ (by omega)
    have hvalue : value fuel room (bytes v.chars ++ 44 :: later) = .ok (v, 44 :: later) :=
      value_chars v (fun n hn => hnum n (List.mem_append_left _ hn)) (by omega) (by omega)
        (ends_cons rfl later)
    have hrest : members fuel room later = .ok (m :: fields, rest) := by
      rw [hlater]
      exact (members_chars (m :: fields) (List.cons_ne_nil m fields)
        (fun n hn => hnum n (List.mem_append_right _ hn)) (by omega) (by omega) rest).2
    refine ⟨takes_quoted k _, ?_⟩
    rw [members, bind_ok hkey, bind_ok (expect_colon _), bind_ok hvalue,
      bind_ok (moreItems_comma 125 (by decide) _), if_pos rfl, bind_ok hrest]
    rfl

end

/-! ### Whole texts -/

mutual

/-- Every level of a value takes a bracket in its text. -/
theorem depth_le_length : (v : Json) → v.depth ≤ (bytes v.chars).length
  | null | bool _ | num _ | str _ => Nat.zero_le _
  | arr items => by
    have := depthItems_le_length items
    rw [bytes_arr, List.length_cons, depth, List.length_append]
    omega
  | obj fields => by
    have := depthFields_le_length fields
    rw [bytes_obj, List.length_cons, depth, List.length_append]
    omega

theorem depthItems_le_length :
    (items : List Json) → depthItems items ≤ (bytes (itemsChars items)).length
  | [] => Nat.zero_le _
  | v :: rest => by
    have := depth_le_length v
    have := depthItems_le_length rest
    rw [itemsChars, depthItems, bytes_append, bytes_append, List.length_append, List.length_append]
    omega

theorem depthFields_le_length :
    (fields : List (String × Json)) → depthFields fields ≤ (bytes (fieldsChars fields)).length
  | [] => Nat.zero_le _
  | (k, v) :: rest => by
    have := depth_le_length v
    have := depthFields_le_length rest
    rw [fieldsChars, depthFields]
    simp only [bytes_append, List.length_append]
    omega

end

end Screens.Json
