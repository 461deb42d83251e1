import Screens.Json.Record
import Screens.Network.Percent
import Screens.Service.Error

/-! Requests to the service.

A request for a screen names it in a segment of the path, gives its context in the
query, and may bring bindings in its body. The parts are looked at in that order, the
date of the context last, and the first fault counts. -/
namespace Screens

structure Request where
  method : String
  path : String
  query : String
  body : Json.Bytes
  /-- The id the client gave the request. -/
  id : Option Json.Bytes
deriving DecidableEq

/-- What the service answers at, with the segment that names a screen. -/
inductive Endpoint where
  | health
  | ready
  | screen (segment : String)
  | render (segment : String)
deriving DecidableEq

namespace Endpoint

/-- The endpoint at a path. A screen's segment is never empty. -/
def ofPath? (path : String) : Option Endpoint :=
  match path.splitOn "/" with
  | ["", "health"] => some health
  | ["", "ready"] => some ready
  | ["", "v1", "screens", segment] => if segment.isEmpty then none else some (screen segment)
  | ["", "v1", "screens", segment, "render"] =>
    if segment.isEmpty then none else some (render segment)
  | _ => none

/-- Only rendering takes a body. -/
def accepts (endpoint : Endpoint) (method : String) : Bool :=
  match endpoint with
  | render _ => method == "POST"
  | _ => method == "GET" || method == "HEAD"

end Endpoint

namespace Query

/-- The parameters of form data that are parts of a query. -/
def known (s : String) : List (String × String) :=
  (Percent.formPairs s).filter fun p => Context.partNames.contains p.1

/-- The first of the names that has come before. -/
def again? (seen : List String) : (names : List String) → Option String
  | [] => none
  | name :: names => if seen.contains name then some name else again? (name :: seen) names

/-- The query of form data. Other parameters are passed over; a known one comes once. -/
def ofForm (s : String) : Except BadRequest Query :=
  let parts := known s
  match again? [] (parts.map (·.1)) with
  | some name => .error (.query name)
  | none => .ok {
      userId := parts.lookup "userId"
      routeId := parts.lookup "routeId"
      serviceDate := parts.lookup "serviceDate"
      deviceModel := parts.lookup "deviceModel"
      appVersion := parts.lookup "appVersion"
      locale := parts.lookup "locale" }

end Query

/-- A request for a screen, understood. -/
structure ScreenRequest where
  screenId : String
  context : Context
  /-- The bindings that came with it. -/
  bindings : Environment
deriving DecidableEq

/-! ### Bodies -/

/-- The largest body taken, in bytes. -/
def bodyLimit : Nat := 2 * 1024 * 1024

/-- How deep a body may be nested. -/
def bodyDepth : Nat := 127

def bodyParts : List Json.Part := [⟨"environment", .object, false⟩]

def isAsciiBlank (b : UInt8) : Bool := b == 32 || b == 9 || b == 10 || b == 12 || b == 13

/-- The bindings in a body; a blank body has none. -/
def bindingsOf (body : Json.Bytes) : Except Json.Fault Environment :=
  if body.all isAsciiBlank then .ok .empty
  else (Json.readRecord bodyParts bodyDepth body).map fun parts =>
    .ofJson ((parts.lookup "environment").getD .null)

namespace Request

/-- The path of a target, less a scheme and host it may begin with. -/
def pathOf (target : String) : String :=
  match target.splitOn "://" with
  | scheme :: rest =>
    if scheme.contains '/' ∨ rest.isEmpty then target
    else
      let path := String.ofList (("://".intercalate rest).toList.dropWhile (· != '/'))
      if path.isEmpty then "/" else path
  | [] => target

/-- A request for a target: a path, after `?` its query, and after `#` what does not count. -/
def ofTarget (method target : String) (body : Json.Bytes) (id : Option Json.Bytes) : Request :=
  let cs := target.toList.takeWhile (· != '#')
  { method
    path := pathOf (String.ofList (cs.takeWhile (· != '?')))
    query := String.ofList ((cs.dropWhile (· != '?')).drop 1)
    body, id }

/-- What is asked of a screen; `taking` says whether the body counts. -/
def screen (request : Request) (segment : String) (taking : Bool) :
    Except BadRequest ScreenRequest := do
  let screenId ← match Percent.segment? segment with
    | some id => pure id
    | none => throw .path
  let query ← Query.ofForm request.query
  let bindings ← if taking then (bindingsOf request.body).mapError (.body · request.body)
    else pure .empty
  let context ← query.context.mapError .serviceDate
  return { screenId, context, bindings }

/-- The longest id that is kept, in bytes. -/
def idLimit : Nat := 128

/-- The id the answer carries, where the client gave a good one: a line of visible ASCII,
spaces and tabs. Any other request gets a new one. -/
def keptId? (request : Request) : Option String := do
  let bytes ← request.id
  let isPlain (b : UInt8) : Bool := (32 ≤ b && b < 127) || b == 9
  if bytes.isEmpty || idLimit < bytes.length || !bytes.all isPlain then none
  else Utf8.text? bytes

end Request
end Screens
