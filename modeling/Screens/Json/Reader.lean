import Screens.Json.Basic
import Screens.Number.Numeral

/-! Reading JSON from bytes.

Text is read from left to right and the first fault counts: the text ended too
early, it is malformed, or it is well-formed so far but not of the shape asked
for. Strings are checked to be UTF-8 when their closing quote is reached.

`value` keeps the members of an object as written, repetitions included; a value
nested deeper than its `room` is malformed. `skip` passes over a value whose
content nobody needs: it checks form only, neither surrogates nor UTF-8 nor the
range of a number, and to any depth. -/
namespace Screens.Json

/-- Why a text could not be read. -/
inductive Fault where
  | ended
  | malformed
  | mismatched
deriving DecidableEq

abbrev Bytes := List UInt8

/-- Takes bytes from the front of the text. -/
abbrev Reader := StateT Bytes (Except Fault)

/-! ### Bytes -/

def isSpace (b : UInt8) : Bool := b == 32 || b == 10 || b == 9 || b == 13

def isDigit (b : UInt8) : Bool := 48 ≤ b && b ≤ 57

/-- The next byte. -/
def next : Reader UInt8
  | [] => .error .ended
  | b :: rest => .ok (b, rest)

/-- The next byte that is no space. -/
def nextMark : Reader UInt8 := fun bytes => next (bytes.dropWhile isSpace)

/-- Takes the mark if it comes next, spaces before it included; else takes nothing. -/
def takes (mark : UInt8) : Reader Bool := fun bytes =>
  match bytes.dropWhile isSpace with
  | b :: rest => if b = mark then .ok (true, rest) else .ok (false, bytes)
  | [] => .ok (false, bytes)

/-- The mark has to come next. -/
def expect (mark : UInt8) : Reader Unit := do
  if (← nextMark) ≠ mark then throw .malformed

/-- The letters have to come next. -/
def word : (letters : List Char) → Reader Unit
  | [] => pure ()
  | c :: letters => do
    if (← next).toNat ≠ c.toNat then throw .malformed
    word letters

/-! ### Strings -/

def hexValue? (b : UInt8) : Option Nat :=
  let n := b.toNat
  if 48 ≤ n ∧ n ≤ 57 then some (n - 48)
  else if 65 ≤ n ∧ n ≤ 70 then some (n - 55)
  else if 97 ≤ n ∧ n ≤ 102 then some (n - 87)
  else none

def hexUnit? (a b c d : UInt8) : Option Nat := do
  let a ← hexValue? a
  let b ← hexValue? b
  let c ← hexValue? c
  let d ← hexValue? d
  return ((a * 16 + b) * 16 + c) * 16 + d

/-- What a one-letter escape stands for. -/
def shortEscape? (b : UInt8) : Option UInt8 :=
  match Char.ofNat b.toNat with
  | '"' => some 34
  | '\\' => some 92
  | '/' => some 47
  | 'b' => some 8
  | 'f' => some 12
  | 'n' => some 10
  | 'r' => some 13
  | 't' => some 9
  | _ => none

/-- The four digits after `\u`: with fewer than four bytes left the text has ended. -/
def hexEscape : Reader Nat
  | a :: b :: c :: d :: rest => match hexUnit? a b c d with
    | some n => .ok (n, rest)
    | none => .error .malformed
  | _ => .error .ended

def isLeading (n : Nat) : Bool := 0xD800 ≤ n && n ≤ 0xDBFF

def isTrailing (n : Nat) : Bool := 0xDC00 ≤ n && n ≤ 0xDFFF

/-- The character of a `\u` escape; a leading surrogate needs a trailing one after it. -/
def unicodeEscape : Reader Char := do
  let n ← hexEscape
  if isTrailing n then throw .malformed
  if !isLeading n then return Char.ofNat n
  if (← next) ≠ 92 then throw .malformed
  if (← next) ≠ 117 then throw .malformed
  let t ← hexEscape
  if !isTrailing t then throw .malformed
  return Char.ofNat (0x10000 + (n - 0xD800) * 0x400 + (t - 0xDC00))

/-- The content of a string after its opening quote; `got` holds the bytes read so
far in reverse. `fuel` bounds the steps, each of which takes a byte. -/
def stringBytes : (fuel : Nat) → (got : Bytes) → Reader Bytes
  | 0, _ => throw .ended
  | fuel + 1, got => do
    let b ← next
    if b = 34 then return got.reverse
    if b < 32 then throw .malformed
    if b ≠ 92 then stringBytes fuel (b :: got)
    else
      let e ← next
      if e = 117 then
        let c ← unicodeEscape
        stringBytes fuel ((String.singleton c).toUTF8.toList.reverse ++ got)
      else match shortEscape? e with
        | some b => stringBytes fuel (b :: got)
        | none => throw .malformed

/-- A string after its opening quote. -/
def string (fuel : Nat) : Reader String := do
  let content ← stringBytes fuel []
  match String.fromUTF8? ⟨content.toArray⟩ with
  | some s => return s
  | none => throw .malformed

/-- Passes over a string after its opening quote. -/
def skipString : (fuel : Nat) → Reader Unit
  | 0 => throw .ended
  | fuel + 1 => do
    let b ← next
    if b = 34 then return
    if b < 32 then throw .malformed
    if b = 92 then
      let e ← next
      if e = 117 then discard hexEscape
      else if (shortEscape? e).isNone then throw .malformed
    skipString fuel

/-! ### Numbers -/

/-- What a number is read from: its digits, and its exponent as written. -/
structure Literal where
  negative : Bool
  whole : List Nat
  fraction : List Nat
  exponent : Int
  /-- Neither fraction nor exponent. -/
  plain : Bool

/-- Digits are taken while the value fits 64 bits; the others are left. -/
def Literal.absorb : (digits : List Nat) → (value : Nat) → Nat × List Nat
  | [], value => (value, [])
  | d :: rest, value =>
    if value * 10 + d < power 2 64 then absorb rest (value * 10 + d) else (value, d :: rest)

/-- The double nearest to `10 ^ k`. -/
def powerOfTen (k : Nat) : Double := (Double.ofDecimal? false 1 k).getD (.zero false)

/-- `f * 10 ^ e`, by one multiplication or by divisions of at most `10 ^ 308`, each
rounded. -/
def scale (f : Double) (e : Int) : Option Double :=
  if e > 308 then if f.pattern = 0 then some f else none
  else if 0 ≤ e then f.mul? (powerOfTen e.toNat)
  else if -308 ≤ e then f.div? (powerOfTen (-e).toNat)
  else match f.div? (powerOfTen 308) with
    | none => none
    | some g => if g.pattern = 0 then some g else scale g (e + 308)
termination_by (-e).toNat
decreasing_by omega

/-- The number a literal stands for, unless it is past the largest double. An
integer outside the exact range, a fraction or an exponent makes it a double: the
leading digits that fit 64 bits are rounded, then scaled by the power of ten. -/
def Literal.number? (l : Literal) : Option Number :=
  let (kept, left) := absorb l.whole 0
  let exact : Option Number :=
    if !l.plain || !left.isEmpty then none
    else if !l.negative then Number.ofNat? kept
    else if h : 0 < kept ∧ kept ≤ 9223372036854775808 then
      some (.integer (-(kept : Int)) (by constructor <;> omega))
    else none
  match exact with
  | some n => some n
  | none =>
    let (digits, dropped) := absorb l.fraction kept
    let e := l.exponent + left.length - (l.fraction.length - dropped.length : Nat)
    match scale (((Double.ofInt? digits)).getD (.zero false)) e with
    | some x => some (.decimal (if l.negative then x.neg else x))
    | none => none

def digitValues (bytes : Bytes) : List Nat := bytes.map (·.toNat - 48)

/-- The run of digits that comes next. -/
def digits : Reader Bytes := fun bytes => .ok (bytes.takeWhile isDigit, bytes.dropWhile isDigit)

/-- At least one digit; `atEnd` is the fault when the text ends instead. -/
def someDigits (atEnd : Fault) : Reader Bytes := do
  let run ← digits
  if run.isEmpty then throw (if (← get).isEmpty then atEnd else .malformed)
  return run

/-- A leading zero stands alone. -/
def wholeDigits (atEnd : Fault) : Reader Bytes := do
  let run ← someDigits atEnd
  if run.head? = some 48 ∧ run.length > 1 then throw .malformed
  return run

/-- Takes one of the bytes if it comes next. -/
def takesOne (choices : List UInt8) : Reader (Option UInt8)
  | b :: rest => if choices.contains b then .ok (some b, rest) else .ok (none, b :: rest)
  | [] => .ok (none, [])

/-- The point and the digits after it. -/
def fractionDigits (atEnd : Fault) : Reader (Option Bytes) := do
  match ← takesOne [46] with
  | some _ => return some (← someDigits atEnd)
  | none => return none

def exponentValue (atEnd : Fault) : Reader (Option Int) := do
  match ← takesOne [101, 69] with
  | none => return none
  | some _ =>
    let sign ← takesOne [43, 45]
    let n : Nat := (digitValues (← someDigits atEnd)).foldl (fun n d => n * 10 + d) 0
    return some (if sign = some 45 then -(n : Int) else n)

/-- The literal after its sign. -/
def literal (atEnd : Fault) (negative : Bool) : Reader Literal := do
  let whole ← wholeDigits atEnd
  let fraction ← fractionDigits atEnd
  let exponent ← exponentValue atEnd
  return ⟨negative, digitValues whole, digitValues (fraction.getD []), exponent.getD 0,
    fraction.isNone && exponent.isNone⟩

def number (negative : Bool) : Reader Number := do
  match (← literal .ended negative).number? with
  | some n => return n
  | none => throw .malformed

/-! ### Values -/

/-- Puts a byte back in front of the text. -/
def putBack (b : UInt8) : Reader Unit := modify (b :: ·)

/-- A value that is neither array nor object, after its first byte. -/
def leaf (fuel : Nat) (first : UInt8) : Reader Json :=
  match Char.ofNat first.toNat with
  | 'n' => do word ['u', 'l', 'l']; return .null
  | 't' => do word ['r', 'u', 'e']; return .bool true
  | 'f' => do word ['a', 'l', 's', 'e']; return .bool false
  | '"' => do return .str (← string fuel)
  | '-' => do return .num (← number true)
  | _ => do
    if !isDigit first then throw .malformed
    putBack first
    return .num (← number false)

/-- After an item: whether a comma follows, or the closing bracket. -/
def moreItems (closing : UInt8) : Reader Bool := do
  let b ← nextMark
  if b = closing then return false
  else if b = 44 then return true
  else throw .malformed

/-- A key and the colon after it. -/
def key (fuel : Nat) : Reader String := do
  expect 34
  string fuel

mutual

/-- One value. `fuel` bounds the steps, `room` the levels of nesting. -/
def value : (fuel room : Nat) → Reader Json
  | 0, _ => throw .ended
  | fuel + 1, room => do
    let b ← nextMark
    if b = 91 then
      if room = 0 then throw .malformed
      if ← takes 93 then return .arr []
      return .arr (← values fuel (room - 1))
    else if b = 123 then
      if room = 0 then throw .malformed
      if ← takes 125 then return .obj []
      return .obj (← members fuel (room - 1))
    else leaf fuel b

/-- The items of an array that has one, to its closing bracket. -/
def values : (fuel room : Nat) → Reader (List Json)
  | 0, _ => throw .ended
  | fuel + 1, room => do
    let v ← value fuel room
    if ← moreItems 93 then return v :: (← values fuel room) else return [v]

/-- The members of an object that has one, to its closing bracket. -/
def members : (fuel room : Nat) → Reader (List (String × Json))
  | 0, _ => throw .ended
  | fuel + 1, room => do
    let k ← key fuel
    expect 58
    let v ← value fuel room
    if ← moreItems 125 then return (k, v) :: (← members fuel room) else return [(k, v)]

end

mutual

/-- Passes over one value. A number cut off by the end of the text is malformed here. -/
def skip : (fuel : Nat) → Reader Unit
  | 0 => throw .ended
  | fuel + 1 => do
    let b ← nextMark
    match Char.ofNat b.toNat with
    | '[' => if !(← takes 93) then skipItems fuel
    | '\x7b' => if !(← takes 125) then skipMembers fuel
    | 'n' => word ['u', 'l', 'l']
    | 't' => word ['r', 'u', 'e']
    | 'f' => word ['a', 'l', 's', 'e']
    | '"' => skipString fuel
    | '-' => discard (literal .malformed true)
    | _ =>
      if !isDigit b then throw .malformed
      putBack b
      discard (literal .malformed false)

def skipItems : (fuel : Nat) → Reader Unit
  | 0 => throw .ended
  | fuel + 1 => do
    skip fuel
    if ← moreItems 93 then skipItems fuel

def skipMembers : (fuel : Nat) → Reader Unit
  | 0 => throw .ended
  | fuel + 1 => do
    expect 34
    skipString fuel
    expect 58
    skip fuel
    if ← moreItems 125 then skipMembers fuel

end

/-- Steps enough for any text of these bytes. -/
def steps (bytes : Bytes) : Nat := 2 * bytes.length + 2

/-- Only spaces may follow. -/
def finish : Reader Unit := fun bytes =>
  if (bytes.dropWhile isSpace).isEmpty then .ok ((), []) else .error .malformed

/-- A reader of a whole text. -/
def whole {α : Type} (reader : Reader α) : Reader α := do
  let v ← reader
  finish
  return v

/-- A whole text as one value with members as written. -/
def readWritten (room : Nat) (bytes : Bytes) : Except Fault Json :=
  (whole (value (steps bytes) room)).run' bytes

/-- A whole text as one canonical value, of any depth. -/
def read (bytes : Bytes) : Except Fault Json :=
  (readWritten bytes.length bytes).map canonical

/-- The levels of nesting a text from outside may have. -/
def standardRoom : Nat := 127

/-- A whole text as one canonical value of limited depth. -/
def readLimited (bytes : Bytes) : Except Fault Json :=
  (readWritten standardRoom bytes).map canonical

end Screens.Json
