import Screens.Number.Power
import Screens.Text.Blank
import Screens.Text.Scan

/-! Points in time as RFC 3339 writes them.

A timestamp is a local date and time and the offset it is local to. Second 60 is a
leap second and stays one. The strict form is that of the standard, where `t` or a
space may stand for `T`, `z` for `Z` and U+2212 for the minus sign of the offset;
digits of a fraction past the ninth are dropped. The lenient form also takes blanks
between the parts, one digit where two are usual, a sign before the year, an offset
without its colon, and `UTC`. -/
namespace Screens

structure Timestamp where
  year : Int
  month : Nat
  day : Nat
  hour : Nat
  minute : Nat
  second : Nat
  nanos : Nat
  /-- Minutes east of Greenwich. -/
  offset : Int
deriving DecidableEq

namespace Timestamp

/-! ### The calendar -/

def isLeap (year : Int) : Bool :=
  (year % 4 == 0 && year % 100 != 0) || year % 400 == 0

def daysIn (year : Int) (month : Nat) : Nat :=
  if month = 2 then if isLeap year then 29 else 28
  else if month = 4 || month = 6 || month = 9 || month = 11 then 30
  else 31

/-- The first and last years that can be told. -/
def yearRange : Int × Int := (-262143, 262142)

def minutesADay : Nat := 24 * 60

/-- The minute it is at Greenwich, from the start of the local day: below 0 on the day
before, from `minutesADay` on the day after. -/
def minuteAtGreenwich (t : Timestamp) : Int := (60 * t.hour + t.minute : Nat) - t.offset

/-- At Greenwich, too, the year is one that can be told. -/
def IsTold (t : Timestamp) : Prop :=
  (t.minuteAtGreenwich < 0 → (t.year, t.month, t.day) ≠ (yearRange.1, 1, 1)) ∧
    (minutesADay ≤ t.minuteAtGreenwich → (t.year, t.month, t.day) ≠ (yearRange.2, 12, 31))

instance (t : Timestamp) : Decidable t.IsTold := by unfold IsTold; infer_instance

/-- The parts name a day of the calendar and a time of the day that can be told. -/
def IsReal (t : Timestamp) : Prop :=
  (yearRange.1 ≤ t.year ∧ t.year ≤ yearRange.2) ∧ (1 ≤ t.month ∧ t.month ≤ 12) ∧
    (1 ≤ t.day ∧ t.day ≤ daysIn t.year t.month) ∧ t.hour ≤ 23 ∧ t.minute ≤ 59 ∧ t.second ≤ 60 ∧
    t.offset.natAbs < minutesADay ∧ t.IsTold

instance (t : Timestamp) : Decidable t.IsReal := by unfold IsReal; infer_instance

/-! ### Reading -/

/-- Between `least` and `most` digits, as many as come. -/
def number (least most : Nat) : Scan Nat := fun cs =>
  let digits := (cs.take most).takeWhile Char.isDigit
  if least ≤ digits.length then some (digitsValue digits, cs.drop digits.length) else none

/-- The letter or space between date and time. -/
def dateEnd : Scan Unit
  | d :: rest => if d = 't' ∨ d = 'T' ∨ d = ' ' then some ((), rest) else none
  | [] => none

/-- A fraction of a second, if one follows, in nanoseconds. -/
def fraction : Scan Nat
  | '.' :: rest =>
    let digits := rest.takeWhile Char.isDigit
    let kept := digits.take 9
    if digits.isEmpty then none
    else some (digitsValue kept * power 10 (9 - kept.length), rest.dropWhile Char.isDigit)
  | rest => some (0, rest)

/-- The offset in minutes; `between` takes what separates hours from minutes. -/
def readOffset (between : Scan Unit) : Scan Int
  | [] => none
  | c :: rest =>
    if c = 'Z' ∨ c = 'z' then some (0, rest)
    else if c = '+' ∨ c = '-' ∨ c = '\u2212' then do
      let (hours, rest) ← number 2 2 rest
      let (_, rest) ← between rest
      let (minutes, rest) ← number 2 2 rest
      if 59 < minutes then none
      else
        let total : Int := hours * 60 + minutes
        some (if c = '+' then total else -total, rest)
    else none

/-- How the parts may be written. -/
structure Form where
  /-- What may stand before a number or a mark. -/
  gap : List Char → List Char
  year : Scan Int
  /-- The fewest digits of month, day, hour, minute and second. -/
  leastDigits : Nat
  offset : Scan Int

def readAs (form : Form) (cs : List Char) : Option Timestamp := do
  let two : Scan Nat := fun cs => number form.leastDigits 2 (form.gap cs)
  let sign (c : Char) : Scan Unit := fun cs => Scan.mark c (form.gap cs)
  let (year, rest) ← form.year (form.gap cs)
  let (_, rest) ← sign '-' rest
  let (month, rest) ← two rest
  let (_, rest) ← sign '-' rest
  let (day, rest) ← two rest
  let (_, rest) ← dateEnd rest
  let (hour, rest) ← two rest
  let (_, rest) ← sign ':' rest
  let (minute, rest) ← two rest
  let (_, rest) ← sign ':' rest
  let (second, rest) ← two rest
  let (nanos, rest) ← fraction rest
  let (offset, rest) ← form.offset (form.gap rest)
  let t : Timestamp := { year, month, day, hour, minute, second, nanos, offset }
  if (form.gap rest).isEmpty ∧ t.IsReal then some t else none

def plainYear : Scan Int := fun cs => (number 4 4 cs).map fun (n, rest) => ((n : Int), rest)

/-- One to four digits, or a sign and any number of them. -/
def signedYear : Scan Int
  | '+' :: rest => (number 1 rest.length rest).map fun (n, rest) => ((n : Int), rest)
  | '-' :: rest => (number 1 rest.length rest).map fun (n, rest) => (-(n : Int), rest)
  | rest => (number 1 4 rest).map fun (n, rest) => ((n : Int), rest)

/-- The letters `UTC` in any case, or an offset with or without its colon. -/
def looseOffset : Scan Int := fun cs =>
  if (cs.take 3).map Char.toUpper = ['U', 'T', 'C'] then some (0, cs.drop 3)
  else readOffset (fun cs => some ((), cs.dropWhile fun c => c == ':' || isBlank c)) cs

def strictForm : Form :=
  { gap := id, year := plainYear, leastDigits := 2, offset := readOffset (Scan.mark ':') }

def lenientForm : Form :=
  { gap := List.dropWhile isBlank, year := signedYear, leastDigits := 1, offset := looseOffset }

def ofStrict? (s : String) : Option Timestamp := readAs strictForm s.toList

def ofLenient? (s : String) : Option Timestamp := readAs lenientForm s.toList

/-! ### Writing -/

def padded (width : Nat) (n : Nat) : List Char :=
  let digits := Nat.toDigits 10 n
  List.replicate (width - digits.length) '0' ++ digits

/-- A year of more or fewer than four digits carries its sign. -/
def yearChars (year : Int) : List Char :=
  if 0 ≤ year ∧ year ≤ 9999 then padded 4 year.toNat
  else (if year < 0 then '-' else '+') :: padded 4 year.natAbs

/-- No digits, or three, six or nine, the fewest that are exact. -/
def fractionChars (nanos : Nat) : List Char :=
  if nanos = 0 then []
  else if nanos % 1000000 = 0 then '.' :: padded 3 (nanos / 1000000)
  else if nanos % 1000 = 0 then '.' :: padded 6 (nanos / 1000)
  else '.' :: padded 9 nanos

def offsetChars (offset : Int) : List Char :=
  [if offset < 0 then '-' else '+'] ++ padded 2 (offset.natAbs / 60) ++ [':'] ++
    padded 2 (offset.natAbs % 60)

/-- The standard's form, in the timestamp's own offset; `zulu` writes a zero offset as `Z`. -/
def render (zulu : Bool) (t : Timestamp) : String :=
  String.ofList (yearChars t.year ++ ['-'] ++ padded 2 t.month ++ ['-'] ++ padded 2 t.day ++
    ['T'] ++ padded 2 t.hour ++ [':'] ++ padded 2 t.minute ++ [':'] ++ padded 2 t.second ++
    fractionChars t.nanos ++ (if zulu ∧ t.offset = 0 then ['Z'] else offsetChars t.offset))

end Timestamp
end Screens
