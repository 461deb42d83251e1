import Screens.Context.Timestamp
import Screens.Toml.Basic

/-! Numbers, truth values, dates and times as TOML writes them.

Each is one word. An underscore may stand between two digits. A whole number has
no zeros in front; with `0x`, `0o` or `0b` it is in base sixteen, eight or two and has no
sign. Whole numbers take at most 128 bits. -/
namespace Screens.Toml

/-- A run of digits, without the underscores between them. -/
def digits? (isDigit : Char → Bool) (cs : List Char) : Option (List Char) :=
  let pieces := (String.ofList cs).splitOn "_"
  if pieces.all fun p => !p.isEmpty && p.all isDigit then some (cs.filter (· != '_')) else none

/-- Decimal digits without a zero in front. -/
def plainDigits? (cs : List Char) : Option (List Char) := do
  let digits ← digits? Char.isDigit cs
  if digits.head? = some '0' ∧ 1 < digits.length then none else some digits

def isWide (n : Int) : Bool := n < -(power 2 127 : Int) || (power 2 128 : Int) ≤ n

def based? (base : Nat) (cs : List Char) : Option Int :=
  (digits? (fun c => (digitValue? base c).isSome) cs).map fun digits => valueIn base digits

def integer? (cs : List Char) : Option Int := do
  let n ← match cs with
    | '0' :: 'x' :: rest => based? 16 rest
    | '0' :: 'o' :: rest => based? 8 rest
    | '0' :: 'b' :: rest => based? 2 rest
    | _ =>
      let (negative, rest) := Numeral.splitSign cs
      (plainDigits? rest).map fun digits =>
        if negative then -(digitsValue digits : Int) else digitsValue digits
  if isWide n then none else some n

def isExponentMark (c : Char) : Bool := c == 'e' || c == 'E'

/-- What follows the whole part: a fraction, an exponent or both. -/
def isFloatEnd (cs : List Char) : Bool :=
  let isExponent (cs : List Char) : Bool := match cs with
    | c :: rest => isExponentMark c && (digits? Char.isDigit (Numeral.splitSign rest).2).isSome
    | [] => false
  match cs with
  | '.' :: rest =>
    let fraction := rest.takeWhile fun c => !isExponentMark c
    let more := rest.dropWhile fun c => !isExponentMark c
    (digits? Char.isDigit fraction).isSome && (more.isEmpty || isExponent more)
  | _ => isExponent cs

/-- A number with a fraction or exponent within the range of doubles, or `inf` or `nan`. -/
def float? (cs : List Char) : Option Numeral :=
  let rest := (Numeral.splitSign cs).2
  if rest = "inf".toList ∨ rest = "nan".toList then Numeral.ofChars? cs
  else
    let isWhole (c : Char) : Bool := c.isDigit || c == '_'
    if (plainDigits? (rest.takeWhile isWhole)).isSome ∧ isFloatEnd (rest.dropWhile isWhole) then
      match Numeral.ofChars? (cs.filter (· != '_')) with
      | some (.finite x) => some (.finite x)
      | _ => none
    else none

/-! ### Dates and times -/

/-- A day of the calendar. -/
def date : Scan Unit := do
  let year ← Timestamp.number 4 4
  Scan.mark '-'
  let month ← Timestamp.number 2 2
  Scan.mark '-'
  let day ← Timestamp.number 2 2
  if month < 1 ∨ 12 < month ∨ day < 1 ∨ Timestamp.daysIn year month < day then failure

/-- A time of the day, with or without seconds. -/
def time : Scan Unit := do
  let hour ← Timestamp.number 2 2
  Scan.mark ':'
  let minute ← Timestamp.number 2 2
  if 23 < hour ∨ 59 < minute then failure
  if ← Scan.takes ':' then
    let second ← Timestamp.number 2 2
    if 60 < second then failure
    discard Timestamp.fraction

def dateAndTime : Scan Unit := do
  date
  let c ← Scan.next
  if c ≠ 'T' ∧ c ≠ 't' ∧ c ≠ ' ' then failure
  time

def isDate (cs : List Char) : Bool := (Scan.whole date cs).isSome

/-- A date, a time, or both with or without an offset of less than a day. -/
def isMoment (cs : List Char) : Bool :=
  let zoned : Scan Unit := do
    dateAndTime
    let offset ← Timestamp.readOffset (Scan.mark ':')
    if Timestamp.minutesADay ≤ offset.natAbs then failure
  isDate cs || (Scan.whole time cs).isSome || (Scan.whole dateAndTime cs).isSome ||
    (Scan.whole zoned cs).isSome

/-- The value a word stands for. -/
def scalar? (cs : List Char) : Option Value :=
  if cs = "true".toList then some (.flag true)
  else if cs = "false".toList then some (.flag false)
  else if isMoment cs then some (.moment (String.ofList cs))
  else ((integer? cs).map .integer).or ((float? cs).map .float)

end Screens.Toml
