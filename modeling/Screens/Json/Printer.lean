import Screens.Json.Basic

/-! The text of a JSON value: compact, and indented by two spaces a level.

In a string the quote and the backslash are escaped, the control characters
below `U+0020` by their short escape or as four lower-case hexadecimal digits,
and every other character stands for itself. -/
namespace Screens.Json

def hexDigit (n : Nat) : Char := if n < 10 then Char.ofNat (48 + n) else Char.ofNat (87 + n)

def escape (c : Char) : List Char :=
  if c = '"' then ['\\', '"']
  else if c = '\\' then ['\\', '\\']
  else if c = '\n' then ['\\', 'n']
  else if c = '\r' then ['\\', 'r']
  else if c = '\t' then ['\\', 't']
  else if c.toNat = 8 then ['\\', 'b']
  else if c.toNat = 12 then ['\\', 'f']
  else if c.toNat < 32 then ['\\', 'u', '0', '0', hexDigit (c.toNat / 16), hexDigit (c.toNat % 16)]
  else [c]

def quoted (s : String) : List Char := ['"'] ++ s.toList.flatMap escape ++ ['"']

/-! ### Compact -/

mutual

def chars : Json → List Char
  | null => "null".toList
  | bool b => (if b then "true" else "false").toList
  | num n => n.chars
  | str s => quoted s
  | arr items => ['['] ++ itemsChars items ++ [']']
  | obj fields => ['\x7b'] ++ fieldsChars fields ++ ['\x7d']

def itemsChars : List Json → List Char
  | [] => []
  | v :: rest => v.chars ++ (if rest.isEmpty then [] else [',']) ++ itemsChars rest

def fieldsChars : List (String × Json) → List Char
  | [] => []
  | (k, v) :: rest =>
    quoted k ++ [':'] ++ v.chars ++ (if rest.isEmpty then [] else [',']) ++ fieldsChars rest

end

/-- The value on one line, without spaces. -/
def render (v : Json) : String := String.ofList v.chars

/-! ### Indented -/

def newline (level : Nat) : List Char := '\n' :: List.replicate (2 * level) ' '

mutual

def indentedChars (level : Nat) : Json → List Char
  | arr [] => ['[', ']']
  | arr items => ['['] ++ indentedItems (level + 1) items ++ newline level ++ [']']
  | obj [] => ['\x7b', '\x7d']
  | obj fields => ['\x7b'] ++ indentedFields (level + 1) fields ++ newline level ++ ['\x7d']
  | null => "null".toList
  | bool b => (if b then "true" else "false").toList
  | num n => n.chars
  | str s => quoted s

def indentedItems (level : Nat) : List Json → List Char
  | [] => []
  | v :: rest =>
    newline level ++ indentedChars level v ++ (if rest.isEmpty then [] else [',']) ++
      indentedItems level rest

def indentedFields (level : Nat) : List (String × Json) → List Char
  | [] => []
  | (k, v) :: rest =>
    newline level ++ quoted k ++ [':', ' '] ++ indentedChars level v ++
      (if rest.isEmpty then [] else [',']) ++ indentedFields level rest

end

/-- The value over several lines, one item or member a line. -/
def renderIndented (v : Json) : String := String.ofList (indentedChars 0 v)

end Screens.Json
