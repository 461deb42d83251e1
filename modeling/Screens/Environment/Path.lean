import Screens.Json.Basic

/-! Paths of segments joined by dots, and walks along them through a value. -/
namespace Screens.Path

/-- The segments between dots; a path has at least one. -/
def segments : List Char → List (List Char)
  | [] => [[]]
  | '.' :: rest => [] :: segments rest
  | c :: rest => match segments rest with
    | first :: more => (c :: first) :: more
    | [] => [[c]]

/-- The path cut at each of its dots, the last dot first. -/
def cuts : List Char → List (List Char × List Char)
  | [] => []
  | c :: rest =>
    let later := (cuts rest).map fun (a, b) => (c :: a, b)
    if c = '.' then later ++ [([], rest)] else later

/-- The index a segment names: digits, after an optional plus sign, below `2 ^ 64`. -/
def index? (segment : List Char) : Option Nat :=
  let digits := match segment with
    | '+' :: rest => rest
    | cs => cs
  if digits.isEmpty || !digits.all Char.isDigit then none
  else
    let n := digits.foldl (fun n c => 10 * n + (c.toNat - '0'.toNat)) 0
    if n < power 2 64 then some n else none

/-- One step: a member of an object by key, an item of an array by index. -/
def step (v : Json) (segment : List Char) : Option Json :=
  match v with
  | .obj fields => fields.lookup (String.ofList segment)
  | .arr items => (index? segment).bind (items[·]?)
  | _ => none

/-- The value itself, unless it is `null`: that counts as absent. -/
def present (v : Json) : Option Json := if v.isNull then none else some v

/-- The value at the end of the path; the empty path ends where it starts. -/
def walk (root : Json) (path : List Char) : Option Json :=
  if path.isEmpty then present root
  else ((segments path).foldlM step root).bind present

end Screens.Path
