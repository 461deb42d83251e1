import Screens.Context.Basic
import Screens.Store.Basic

/-! Finding the template of a screen.

The variants of a request are tried in order and then the standard template; the
first key with a template answers. What the store answered is remembered, found or
not, so a key is asked for once, until the memory is cleared. Faults are never
remembered. -/
namespace Screens

inductive ResolveError where
  | invalidScreenId
  | notFound (screenId : String)
  | storeUnavailable (error : StoreError)
  | invalidTemplate (screenId : String) (error : StoreError)
deriving DecidableEq

def ResolveError.message [Wording] : ResolveError → String
  | invalidScreenId => "Screen id must not be empty"
  | notFound screenId => s!"Screen '{screenId}' not found"
  | storeUnavailable error => s!"Template store unavailable: {error.message}"
  | invalidTemplate screenId error =>
    s!"Template for screen '{screenId}' is invalid: {error.message}"

/-- How many keys without a template are remembered before all are forgotten. -/
def missLimit : Nat := 4096

/-- What is remembered of the store's answers, and the keys it was asked for. -/
structure Resolver where
  documents : List (TemplateKey × Document)
  misses : List TemplateKey
  calls : List TemplateKey
deriving DecidableEq

/-- The keys tried for a screen, in order. -/
def candidates (screenId : String) (context : Context) : List TemplateKey :=
  context.variants.map (TemplateKey.ofVariant screenId) ++ [.standard screenId]

namespace ResolveError

/-- What a fault of the store means for the screen. -/
def ofStore (key : TemplateKey) : StoreError → ResolveError
  | .malformed k fault text => .invalidTemplate key.screenId (.malformed k fault text)
  | .unavailable store reason => .storeUnavailable (.unavailable store reason)
  | .unreadable path error => .storeUnavailable (.unreadable path error)

end ResolveError

namespace Resolver

def empty : Resolver := ⟨[], [], []⟩

/-- How many documents are remembered. -/
def size (r : Resolver) : Nat := r.documents.length

/-- Forgets every answer. -/
def clear (r : Resolver) : Resolver := { r with documents := [], misses := [] }

def addMiss (r : Resolver) (key : TemplateKey) : Resolver :=
  { r with misses := key :: if missLimit ≤ r.misses.length then [] else r.misses }

def addDocument (r : Resolver) (key : TemplateKey) (d : Document) : Resolver :=
  { r with documents := (key, d) :: r.documents }

/-- The template of a key, from memory or from the store. -/
def lookup (r : Resolver) (store : Store) (key : TemplateKey) :
    Except ResolveError (Option Document) × Resolver :=
  match r.documents.lookup key with
  | some d => (.ok (some d), r)
  | none =>
    if r.misses.contains key then (.ok none, r)
    else
      let asked := { r with calls := key :: r.calls }
      match store.load key with
      | .error e => (.error (.ofStore key e), asked)
      | .ok none => (.ok none, asked.addMiss key)
      | .ok (some d) => (.ok (some d), asked.addDocument key d)

/-- The first of the keys with a template; a fault on the way ends the search. -/
def firstOf (r : Resolver) (store : Store) : List TemplateKey →
    Except ResolveError (Option Document) × Resolver
  | [] => (.ok none, r)
  | key :: rest =>
    match r.lookup store key with
    | (.ok none, r) => r.firstOf store rest
    | found => found

/-- The template of a screen for a context. Blanks around the id do not count. -/
def resolve (r : Resolver) (store : Store) (screenId : String) (context : Context) :
    Except ResolveError Document × Resolver :=
  let id := trimmed screenId
  if id.isEmpty then (.error .invalidScreenId, r)
  else
    match r.firstOf store (candidates id context) with
    | (.ok (some d), r) => (.ok d, r)
    | (.ok none, r) => (.error (.notFound id), r)
    | (.error e, r) => (.error e, r)

/-- Looks each screen's standard template up; counts those that have one. -/
def warmAll (r : Resolver) (store : Store) : (ids : List String) → (warmed : Nat) → Nat × Resolver
  | [], warmed => (warmed, r)
  | id :: rest, warmed =>
    match r.lookup store (.standard id) with
    | (.ok (some _), r) => r.warmAll store rest (warmed + 1)
    | (_, r) => r.warmAll store rest warmed

/-- Fetches the standard template of every screen the store lists. A screen whose
template is missing or faulty is passed over. -/
def warm (r : Resolver) (store : Store) : Except ResolveError Nat × Resolver :=
  match store.screenIds with
  | .error e => (.error (.storeUnavailable e), r)
  | .ok ids =>
    let (warmed, r) := r.warmAll store ids 0
    (.ok warmed, r)

end Resolver
end Screens
