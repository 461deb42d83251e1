/-! Reading bytes as UTF-8 text.

Strict reading refuses bytes that are no UTF-8. Tolerant reading puts U+FFFD in
place of each longest start of a sequence that cannot go on, and of each byte that
starts none. -/
namespace Screens.Utf8

/-- The text of bytes that are UTF-8. -/
def text? (bytes : List UInt8) : Option String := String.fromUTF8? ⟨bytes.toArray⟩

/-- What the bytes after the first of a sequence may be, each from a least to a
greatest; a byte that starts no sequence has none. -/
def tails? (first : UInt8) : Option (List (UInt8 × UInt8)) :=
  let tail : UInt8 × UInt8 := (0x80, 0xBF)
  if first < 0x80 then some []
  else if first < 0xC2 then none
  else if first < 0xE0 then some [tail]
  else if first = 0xE0 then some [(0xA0, 0xBF), tail]
  else if first = 0xED then some [(0x80, 0x9F), tail]
  else if first < 0xF0 then some [tail, tail]
  else if first = 0xF0 then some [(0x90, 0xBF), tail, tail]
  else if first < 0xF4 then some [tail, tail, tail]
  else if first = 0xF4 then some [(0x80, 0x8F), tail, tail]
  else none

/-- How many bytes go on as they may. -/
def fitting : List (UInt8 × UInt8) → List UInt8 → Nat
  | (least, greatest) :: tails, b :: rest =>
    if least ≤ b ∧ b ≤ greatest then fitting tails rest + 1 else 0
  | _, _ => 0

def replacement : Char := '\ufffd'

/-- The character a sequence with this first byte and these bytes after it stands for. -/
def character (first : UInt8) (tail : List UInt8) : Char :=
  let lead := match tail.length with
    | 0 => first.toNat
    | 1 => first.toNat % 32
    | 2 => first.toNat % 16
    | _ => first.toNat % 8
  Char.ofNat (tail.foldl (fun n b => 64 * n + b.toNat % 64) lead)

/-- The characters of any bytes. -/
def tolerantChars : List UInt8 → List Char
  | [] => []
  | first :: rest =>
    match tails? first with
    | none => replacement :: tolerantChars rest
    | some tails =>
      let n := fitting tails rest
      let c := if n = tails.length then character first (rest.take n) else replacement
      c :: tolerantChars (rest.drop n)
termination_by bytes => bytes.length
decreasing_by
  · simp
  · simp only [List.length_drop, List.length_cons]
    omega

def tolerant (bytes : List UInt8) : String := String.ofList (tolerantChars bytes)

end Screens.Utf8
