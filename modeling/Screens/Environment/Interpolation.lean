import Screens.Environment.Basic
import Screens.Json.Printer
import Screens.Text.Blank

/-! Tokens in texts, and what is put in their place.

A token is two opening braces, a path with blanks around it, and two closing
braces. The tokens of a text are found from left to right and do not overlap; what
stands for a token is not searched again. A token without a binding stays as it is
written, so that the mistake can be seen. -/
namespace Screens.Interpolation

/-- A part of a text: one character that stands for itself, or a token. -/
inductive Piece where
  | literal (c : Char)
  | token (written : List Char) (path : List Char)
deriving DecidableEq

def isPathChar (c : Char) : Bool := c.isAlphanum || c == '.' || c == '_' || c == '-'

def isPath (cs : List Char) : Bool := !cs.isEmpty && cs.all isPathChar

/-- What comes before the first two closing braces. -/
def beforeClose? : List Char → Option (List Char)
  | '\x7d' :: '\x7d' :: _ => some []
  | c :: rest => (beforeClose? rest).map (c :: ·)
  | [] => none

/-- The token at the start of the text: as it is written, and its path. -/
def token? : List Char → Option (List Char × List Char)
  | '\x7b' :: '\x7b' :: rest => do
    let inside ← beforeClose? rest
    let path := trimBlank inside
    if isPath path then
      some (['\x7b', '\x7b'] ++ inside ++ ['\x7d', '\x7d'], path)
    else none
  | _ => none

/-- The pieces of a text, after `passed` characters that belong to a token already. -/
def piecesFrom : (passed : Nat) → List Char → List Piece
  | _, [] => []
  | passed + 1, _ :: rest => piecesFrom passed rest
  | 0, c :: rest => match token? (c :: rest) with
    | some (written, path) => .token written path :: piecesFrom (written.length - 1) rest
    | none => .literal c :: piecesFrom 0 rest

def pieces (text : List Char) : List Piece := piecesFrom 0 text

/-- The text of any value: a scalar's own, else its JSON. -/
def textOf (v : Json) : String := v.scalar?.getD v.render

/-- What stands for a piece. -/
def Piece.chars (scope : Scope) : Piece → List Char
  | literal c => [c]
  | token written path => match scope.lookup (String.ofList path) with
    | some v => (textOf v).toList
    | none => written

/-- The path of a token without a binding. -/
def Piece.unresolved? (scope : Scope) : Piece → Option String
  | literal _ => none
  | token _ path =>
    if (scope.lookup (String.ofList path)).isNone then some (String.ofList path) else none

/-- A text with its tokens replaced, and the paths of those that had no binding. -/
structure Result where
  text : String
  unresolved : List String
deriving DecidableEq

def interpolate (template : String) (scope : Scope) : Result :=
  let ps := pieces template.toList
  { text := String.ofList (ps.flatMap (·.chars scope))
    unresolved := ps.filterMap (·.unresolved? scope) }

/-- Two opening braces occur in the characters. -/
def opens : List Char → Bool
  | '\x7b' :: '\x7b' :: _ => true
  | _ :: rest => opens rest
  | [] => false

/-- Whether the text can hold a token at all. -/
def hasTokens (template : String) : Bool := opens template.toList

end Screens.Interpolation
