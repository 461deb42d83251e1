import Screens.Resources.Cache
import Screens.Resources.Fetch

/-! Fetching the resources of rendered trees.

A pass of a generation asks for the resources of its tree. What is neither known nor on
its way is fetched, once for all that ask; a fetch carries the greatest generation that
wants it, and one that only older passes want can be aborted. Each fetch that ends
leaves its result in the cache and one event. Which URLs can be fetched at all is a
parameter. -/
namespace Screens

/-- A fetch has ended. -/
inductive ResourceEvent where
  | loaded (url : String) (generation : UInt64)
  | failed (url : String) (generation : UInt64) (reason : String)
deriving DecidableEq

namespace ResourceEvent

def url : ResourceEvent → String
  | loaded url _ | failed url _ _ => url

/-- The greatest generation that asked for the resource. -/
def generation : ResourceEvent → UInt64
  | loaded _ generation | failed _ generation _ => generation

end ResourceEvent

structure Loader where
  cache : ResultCache
  /-- The URLs on their way, each with the greatest generation that wants it. -/
  inFlight : List (String × UInt64)
  /-- The events nobody has taken yet, the oldest first. -/
  events : List ResourceEvent
deriving DecidableEq

namespace Loader

def empty (capacity : Nat) : Loader := ⟨.empty capacity, [], []⟩

/-- Keeps the outcome of a fetch and tells of it. -/
def record (loader : Loader) (url : String) (generation : UInt64)
    (outcome : Except FetchError (List UInt8)) : Loader :=
  match outcome with
  | .ok content =>
    { loader with
      cache := loader.cache.insert url (.loaded content)
      events := loader.events ++ [.loaded url generation] }
  | .error e =>
    { loader with
      cache := loader.cache.insert url (.failed e.message generation)
      events := loader.events ++ [.failed url generation e.message] }

/-- Asks for a resource; tells whether a fetch was started. -/
def requestOne (accepts : String → Bool) (generation : UInt64) (loader : Loader) (url : String) :
    Bool × Loader :=
  if ((loader.cache.get? url).map (·.settles generation)).getD false then (false, loader)
  else if (loader.inFlight.lookup url).isSome then
    (false, { loader with
      inFlight := loader.inFlight.map fun (u, g) => (u, if u = url then max g generation else g) })
  else if !accepts url then (false, loader.record url generation (.error (.unsupportedUrl url)))
  else (true, { loader with inFlight := loader.inFlight ++ [(url, generation)] })

/-- The URLs a tree still waits for, in order. -/
def wanted (resources : List Resource) : List String :=
  resources.filterMap fun r => if r.state = .placeholder then r.remoteUrl? else none

/-- Asks for each of the URLs in order; tells how many fetches were started. -/
def requestAll (accepts : String → Bool) (generation : UInt64) : List String → Loader → Nat × Loader
  | [], loader => (0, loader)
  | url :: rest, loader =>
    let (started, loader) := loader.requestOne accepts generation url
    let (more, loader) := requestAll accepts generation rest loader
    (started.toNat + more, loader)

/-- Asks for what a tree waits for. -/
def request (accepts : String → Bool) (loader : Loader) (tree : RenderTree) (generation : UInt64) :
    Nat × Loader :=
  requestAll accepts generation (wanted tree.resources) loader

/-- A fetch ends. One that is not on its way any more leaves no trace. -/
def finish (loader : Loader) (url : String) (outcome : Except FetchError (List UInt8)) : Loader :=
  match loader.inFlight.lookup url with
  | some generation =>
    { loader with inFlight := loader.inFlight.filter (·.1 != url) }.record url generation outcome
  | none => loader

/-- Aborts the fetches only older passes want; tells how many. -/
def cancelStale (loader : Loader) (generation : UInt64) : Nat × Loader :=
  let kept := loader.inFlight.filter fun f => generation ≤ f.2
  (loader.inFlight.length - kept.length, { loader with inFlight := kept })

/-- A resource with what is known of it. -/
def refreshed (loader : Loader) (r : Resource) : Resource :=
  match r.remoteUrl?.bind loader.cache.get? with
  | some result => { r with state := result.state }
  | none => r

/-- A tree with what is known of its resources. -/
def annotate (loader : Loader) (tree : RenderTree) : RenderTree :=
  tree.mapResources loader.refreshed

/-- The content of a loaded resource. -/
def content? (loader : Loader) (url : String) : Option (List UInt8) :=
  match loader.cache.get? url with
  | some (.loaded content) => some content
  | _ => none

/-- Takes the oldest event. -/
def takeEvent? (loader : Loader) : Option (ResourceEvent × Loader) :=
  match loader.events with
  | [] => none
  | event :: rest => some (event, { loader with events := rest })

end Loader
end Screens
