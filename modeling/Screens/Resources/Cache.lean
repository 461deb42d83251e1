import Screens.Render.Tree

/-! What is kept of fetched resources.

Results are kept in the order they came. When the loaded bytes are more than the
capacity, or the results more than `entryLimit`, the oldest are dropped until they are
not. -/
namespace Screens

/-- What came of fetching a resource. -/
inductive FetchResult where
  | loaded (content : List UInt8)
  /-- Failed for passes up to a generation. -/
  | failed (reason : String) (generation : UInt64)
deriving DecidableEq

namespace FetchResult

def state : FetchResult → ResourceState
  | loaded content => .loaded (UInt64.ofNat content.length)
  | failed reason _ => .failed reason

/-- The bytes it takes to keep. -/
def size : FetchResult → Nat
  | loaded content => content.length
  | failed .. => 0

/-- A pass of that generation has no need to fetch again. -/
def settles (result : FetchResult) (generation : UInt64) : Bool :=
  match result with
  | loaded _ => true
  | failed _ upTo => generation ≤ upTo

end FetchResult

/-- The most results that are kept. -/
def entryLimit : Nat := 1024

/-- Results under their URLs, the oldest first, and the sum of their sizes. -/
structure ResultCache where
  entries : List (String × FetchResult)
  bytes : Nat
  capacity : Nat
deriving DecidableEq

namespace ResultCache

def empty (capacity : Nat) : ResultCache := ⟨[], 0, capacity⟩

def get? (cache : ResultCache) (url : String) : Option FetchResult := cache.entries.lookup url

/-- The URLs with a result, the oldest first. -/
def order (cache : ResultCache) : List String := cache.entries.map (·.1)

/-- Drops the oldest entries while there is too much. -/
def evict (capacity : Nat) : List (String × FetchResult) → Nat → ResultCache
  | [], bytes => ⟨[], bytes, capacity⟩
  | (url, result) :: rest, bytes =>
    if capacity < bytes ∨ entryLimit < rest.length + 1 then
      evict capacity rest (bytes - result.size)
    else ⟨(url, result) :: rest, bytes, capacity⟩

/-- Keeps a result, as the youngest, in place of what was kept for the URL. -/
def insert (cache : ResultCache) (url : String) (result : FetchResult) : ResultCache :=
  let before := ((cache.get? url).map FetchResult.size).getD 0
  evict cache.capacity (cache.entries.filter (·.1 != url) ++ [(url, result)])
    (cache.bytes + result.size - before)

end ResultCache
end Screens
