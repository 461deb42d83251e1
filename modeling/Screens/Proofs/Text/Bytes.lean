import Screens.Text.Utf8

/-! The bytes of texts.

The UTF-8 of a text is the UTF-8 of its characters, one after the other
(`toUTF8_toList`), and the text is read back from it (`text?_bytes`). A character below
`U+0080` is one byte, itself; the bytes of any other are `0x80` and above. -/
namespace Screens.Utf8

/-- The UTF-8 of characters. -/
def bytes (cs : List Char) : List UInt8 := cs.flatMap String.utf8EncodeChar

@[simp] theorem bytes_nil : bytes [] = [] := rfl

@[simp] theorem bytes_append (a b : List Char) : bytes (a ++ b) = bytes a ++ bytes b :=
  List.flatMap_append

theorem bytes_cons (c : Char) (cs : List Char) :
    bytes (c :: cs) = String.utf8EncodeChar c ++ bytes cs := List.flatMap_cons

/-! ### Arrays of bytes -/

theorem toListLoop_eq (b : ByteArray) (i : Nat) (got : List UInt8) :
    ByteArray.toList.loop b i got = got.reverse ++ b.data.toList.drop i := by
  rw [ByteArray.toList.loop]
  split
  · rename_i hi
    have hlength : i < b.data.toList.length := by simpa using hi
    have hget : b.get! i = b.data.toList[i] := getElem!_pos b.data i hlength
    rw [toListLoop_eq b (i + 1), List.drop_eq_getElem_cons hlength, hget]
    simp
  · rename_i hi
    rw [List.drop_eq_nil_of_le (by simpa using Nat.not_lt.1 hi), List.append_nil]
termination_by b.size - i

theorem toList_eq (b : ByteArray) : b.toList = b.data.toList := toListLoop_eq b 0 []

theorem toUTF8_toList (cs : List Char) : (String.ofList cs).toUTF8.toList = bytes cs := by
  rw [toList_eq]
  show (String.ofList cs).toByteArray.data.toList = bytes cs
  rw [String.toByteArray_ofList, List.utf8Encode, List.toList_data_toByteArray]
  rfl

theorem text?_bytes (s : String) : text? (bytes s.toList) = some s := by
  have hbytes : (⟨(bytes s.toList).toArray⟩ : ByteArray) = s.toByteArray := by
    have hlist := toUTF8_toList s.toList
    rw [toList_eq, String.ofList_toList] at hlist
    rw [← hlist]
    rfl
  rw [text?, hbytes]
  exact dif_pos s.isValidUTF8

/-! ### Single characters -/

theorem encode_of_ascii {c : Char} (h : c.toNat < 128) :
    String.utf8EncodeChar c = [UInt8.ofNat c.toNat] :=
  if_pos (Nat.le_of_lt_succ h)

theorem toNat_of_mem_encode {c : Char} (h : 128 ≤ c.toNat) {b : UInt8}
    (hb : b ∈ String.utf8EncodeChar c) : 128 ≤ b.toNat := by
  have hv : ¬ c.val.toNat ≤ 0x7f := Nat.not_le.2 h
  simp only [String.utf8EncodeChar, if_neg hv] at hb
  split at hb
  · simp only [List.mem_cons, List.not_mem_nil, or_false] at hb
    rcases hb with rfl | rfl <;> simp <;> omega
  · split at hb
    · simp only [List.mem_cons, List.not_mem_nil, or_false] at hb
      rcases hb with rfl | rfl | rfl <;> simp <;> omega
    · simp only [List.mem_cons, List.not_mem_nil, or_false] at hb
      rcases hb with rfl | rfl | rfl | rfl <;> simp <;> omega

end Screens.Utf8
