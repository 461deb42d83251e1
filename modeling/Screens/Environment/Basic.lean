import Screens.Environment.Path

/-! Environments: the bindings a screen is evaluated against.

A key is a path. A lookup starts at the longest part of the path, cut at a dot or
whole, that is bound, and walks the rest through the value there; so
`user.name` may be bound flat or inside an object `user`. A walk that fails does not
fall back to a shorter part. -/
namespace Screens

structure Environment where
  bindings : Keyed Json
deriving DecidableEq

namespace Environment

def empty : Environment := ⟨.empty⟩

/-- The members of an object; any other value binds nothing. -/
def ofJson (v : Json) : Environment := ⟨.ofList (v.fields?.getD [])⟩

def insert (env : Environment) (key : String) (v : Json) : Environment :=
  ⟨env.bindings.insert key v⟩

/-- Every binding of `upper` put over those of `lower`. -/
def overlay (lower upper : Environment) : Environment := ⟨lower.bindings.overlay upper.bindings⟩

def size (env : Environment) : Nat := env.bindings.size

def encode (env : Environment) : Json := .obj env.bindings.entries

/-- The whole path, then its parts before a dot from the longest, each with the rest. -/
def starts (path : List Char) : List (List Char × List Char) := (path, []) :: Path.cuts path

/-- The value bound at the longest part of the path, and the rest of the path. -/
def bindingPoint? (env : Environment) (path : List Char) : Option (Json × List Char) :=
  (starts path).findSome? fun (part, rest) =>
    (env.bindings.get? (String.ofList part)).map (·, rest)

def get (env : Environment) (path : String) : Option Json :=
  (env.bindingPoint? path.toList).bind fun (root, rest) => Path.walk root rest

end Environment

/-! ### Scopes -/

/-- An environment below the list items in scope, innermost first. -/
structure Scope where
  env : Environment
  items : List Json

namespace Scope

def root (env : Environment) : Scope := ⟨env, []⟩

def withItem (s : Scope) (item : Json) : Scope := { s with items := item :: s.items }

/-- What follows `item` in a path that starts with that segment. -/
def itemPath? : List Char → Option (List Char)
  | ['i', 't', 'e', 'm'] => some []
  | 'i' :: 't' :: 'e' :: 'm' :: '.' :: rest => some rest
  | _ => none

/-- A path under `item` is answered by the innermost item that has it; all else, and
what no item has, by the environment. -/
def lookup (s : Scope) (path : String) : Option Json :=
  let found := match itemPath? path.toList with
    | some rest => s.items.findSome? (Path.walk · rest)
    | none => none
  found <|> s.env.get path

end Scope
end Screens
