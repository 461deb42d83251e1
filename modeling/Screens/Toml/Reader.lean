import Screens.Toml.Scalar

/-! Reading TOML.

A text is a sequence of lines: headers, and keys with their values, which belong to
the header above them. Lists, and tables written as values, may go over several
lines, hold comments and end with a comma. -/
namespace Screens.Toml

/-! ### Spaces and comments -/

def isGap (c : Char) : Bool := c == ' ' || c == '\t'

/-- A character that may stand in a comment or, unescaped, in a string of one line. -/
def isShown (c : Char) : Bool := c == '\t' || (' ' ≤ c && c != '\x7f')

def gap : Scan Unit := discard (Scan.run isGap)

def newline : Scan Unit := do
  discard (Scan.optional (Scan.mark '\r'))
  Scan.mark '\n'

/-- A comment up to the end of its line, if one comes. -/
def comment : Scan Unit := do
  if ← Scan.takes '#' then discard (Scan.run isShown)

/-- Spaces, comments and line ends. -/
def gaps : (fuel : Nat) → Scan Unit
  | 0 => gap
  | fuel + 1 => do
    gap
    comment
    if (← Scan.optional newline).isSome then gaps fuel

/-! ### Strings -/

/-- The character with this many hexadecimal digits. -/
def hexCharacter (digits : Nat) : Scan Char := fun cs =>
  let code := cs.take digits
  let n := valueIn 16 code
  if code.length = digits ∧ code.all (fun c => (digitValue? 16 c).isSome) ∧ n.isValidChar then
    some (Char.ofNat n, cs.drop digits)
  else none

/-- What stands after a backslash. -/
def escape : Scan Char := do
  match ← Scan.next with
  | 'b' => return '\x08'
  | 't' => return '\t'
  | 'n' => return '\n'
  | 'f' => return '\x0c'
  | 'r' => return '\r'
  | 'e' => return '\x1b'
  | '"' => return '"'
  | '\\' => return '\\'
  | 'x' => hexCharacter 2
  | 'u' => hexCharacter 4
  | 'U' => hexCharacter 8
  | _ => failure

/-- The rest of a string with escapes, up to its closing quote. -/
def escapedRest : (fuel : Nat) → Scan (List Char)
  | 0 => failure
  | fuel + 1 => do
    let c ← Scan.next
    if c = '"' then return []
    if c = '\\' then return (← escape) :: (← escapedRest fuel)
    if !isShown c then failure
    return c :: (← escapedRest fuel)

/-- The rest of a string without escapes, up to its closing quote. -/
def literalRest : Scan (List Char) := do
  let cs ← Scan.run fun c => isShown c && c != '\''
  Scan.mark '\''
  return cs

/-- A backslash at the end of a line takes away the spaces and line ends after it. -/
def lineEnd : Scan Unit := do
  gap
  newline
  discard (Scan.run fun c => isGap c || c == '\n' || c == '\r')

/-- The rest of a string of several lines, up to its three closing quotes; one or two
quotes belong to the text, also right before the closing ones. -/
def longRest (quote : Char) (escapes : Bool) : (fuel : Nat) → Scan (List Char)
  | 0 => failure
  | fuel + 1 => do
    let quotes ← Scan.run (· == quote)
    if 5 < quotes.length then failure
    if 3 ≤ quotes.length then return quotes.drop 3
    let c ← Scan.next
    if escapes ∧ c = '\\' then
      if (← Scan.optional lineEnd).isSome then return quotes ++ (← longRest quote escapes fuel)
      return quotes ++ (← escape) :: (← longRest quote escapes fuel)
    if !isShown c ∧ c ≠ '\n' ∧ c ≠ '\r' then failure
    return quotes ++ c :: (← longRest quote escapes fuel)

/-- A string of one line. -/
def shortText : Scan String := do
  if ← Scan.takes '"' then return String.ofList (← escapedRest (← Scan.left))
  Scan.mark '\''
  return String.ofList (← literalRest)

/-- A string of several lines after its opening quotes; a line end right after them
does not count. -/
def longText (quote : Char) : Scan String := do
  discard (Scan.optional newline)
  return String.ofList (← longRest quote (quote == '"') (← Scan.left))

def opensLong (quote : Char) : Scan Bool := do
  return (← Scan.optional (Scan.marks [quote, quote, quote])).isSome

def text : Scan String := do
  if ← opensLong '"' then longText '"'
  else if ← opensLong '\'' then longText '\''
  else shortText

/-! ### Keys -/

def isBare (c : Char) : Bool := c.isAlphanum || c == '-' || c == '_'

def simpleKey : Scan String := do
  let bare ← Scan.run isBare
  if bare.isEmpty then shortText else return String.ofList bare

/-- The parts of a key, dots between them; spaces around each do not count. -/
def dottedKey : (fuel : Nat) → Scan (List String)
  | 0 => failure
  | fuel + 1 => do
    gap
    let key ← simpleKey
    gap
    if ← Scan.takes '.' then return key :: (← dottedKey fuel)
    return [key]

/-- How many parts a key may have. -/
def keyLimit : Nat := 80

/-- A key as the tables on its way and its last part. -/
def keyPath : Scan (List String × String) := do
  let parts ← dottedKey (← Scan.left)
  if keyLimit < parts.length then failure
  return (parts.dropLast, parts.getLast?.getD "")

/-! ### Values -/

/-- How deep lists and tables may be nested in each other. -/
def nestingLimit : Nat := 80

def isScalarPart (c : Char) : Bool := c.isAlphanum || "+-_.:".contains c

/-- A word that is no string. A time may follow its date after one space. -/
def scalar : Scan Value := do
  let word ← Scan.run isScalarPart
  let spaced : Scan (List Char) := do
    Scan.mark ' '
    let time ← Scan.run isScalarPart
    if isMoment (word ++ ' ' :: time) then return ' ' :: time else failure
  let time ← if isDate word then Scan.optional spaced else pure none
  scalar? (word ++ time.getD [])

/-- What is neither a list nor a table. -/
def leaf : Scan Value := do
  match ← Scan.peek with
  | '"' | '\'' => return .text (← text)
  | _ => scalar

/-- The items of a list after its opening bracket. -/
def items (item : Scan Value) : (fuel : Nat) → Scan (List Value)
  | 0 => failure
  | fuel + 1 => do
    gaps (← Scan.left)
    if ← Scan.takes ']' then return []
    let v ← item
    gaps (← Scan.left)
    if ← Scan.takes ',' then return v :: (← items item fuel)
    Scan.mark ']'
    return [v]

/-- A key, an equals sign and the value, with `between` on both sides of the sign. -/
def keyValue (between : Scan Unit) (item : Scan Value) : Scan (List String × String × Value) := do
  let (path, key) ← keyPath
  between
  Scan.mark '='
  between
  return (path, key, ← item)

/-- The members of a table written as a value, after its opening bracket; `got` are
the members read so far. -/
def members (item : Scan Value) : (fuel : Nat) → (got : Members) → Scan Members
  | 0, _ => failure
  | fuel + 1, got => do
    gaps (← Scan.left)
    if ← Scan.takes '\x7d' then return got
    let (path, key, v) ← keyValue (do gaps (← Scan.left)) item
    let got ← Members.put path key v got
    gaps (← Scan.left)
    if ← Scan.takes ',' then members item fuel got
    else
      Scan.mark '\x7d'
      return got

/-- A value nested at most `room` levels deep. -/
def value : (room : Nat) → Scan Value
  | 0 => leaf
  | room + 1 => do
    if ← Scan.takes '[' then return .list (← items (value room) (← Scan.left))
    else if ← Scan.takes '\x7b' then
      return .table .inline (← members (value room) (← Scan.left) [])
    else leaf

/-! ### Lines -/

/-- What has been read: the header in force and all members. -/
structure Draft where
  header : List String
  members : Members

/-- A header after its first bracket. -/
def header (draft : Draft) : Scan Draft := do
  if ← Scan.takes '[' then
    let (path, key) ← keyPath
    Scan.marks [']', ']']
    return ⟨path ++ [key], ← Members.openElement path key draft.members⟩
  else
    let (path, key) ← keyPath
    Scan.mark ']'
    return ⟨path ++ [key], ← Members.openTable path key draft.members⟩

def line (draft : Draft) : Scan Draft := do
  if ← Scan.takes '[' then header draft
  else
    let (path, key, v) ← keyValue gap (value nestingLimit)
    return { draft with members := ← Members.putBelow draft.header path key v draft.members }

/-- The lines of a text, from the first that is not blank. -/
def lines : (fuel : Nat) → Draft → Scan Draft
  | 0, _ => failure
  | fuel + 1, draft => do
    gaps (← Scan.left)
    if (← Scan.left) = 0 then return draft
    let draft ← line draft
    gap
    comment
    if (← Scan.left) = 0 then return draft
    newline
    lines fuel draft

/-- Every carriage return is part of a line end. -/
def returnsPaired : List Char → Bool
  | '\r' :: '\n' :: rest => returnsPaired rest
  | '\r' :: _ => false
  | _ :: rest => returnsPaired rest
  | [] => true

/-- A text as a table; a byte order mark in front of it does not count. -/
def read? (text : String) : Option Members :=
  let cs := match text.toList with
    | '\ufeff' :: rest => rest
    | cs => cs
  if returnsPaired cs then (Scan.whole (lines (cs.length + 1) ⟨[], []⟩) cs).map Draft.members
  else none

end Screens.Toml
