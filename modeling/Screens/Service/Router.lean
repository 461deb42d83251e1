import Screens.Render.Evaluate
import Screens.Render.Wire
import Screens.Service.Request

/-! How the service answers requests.

`GET` of a screen answers with its document as resolved; `POST` to its `render` answers
with the tree drawn from it, in the environment of the context overlaid with the
bindings of the body. `HEAD` is answered like `GET`, without the body. Every failure is
an object with the kind of the error and a message. -/
namespace Screens

variable [Wording]

inductive Content where
  | empty
  | json (v : Json)
  | text (s : String)
deriving DecidableEq

structure Response where
  status : Nat
  contentType : Option String
  content : Content
deriving DecidableEq

namespace Response

def ofJson (status : Nat) (v : Json) : Response := ⟨status, some "application/json", .json v⟩

def ofText (status : Nat) (s : String) : Response :=
  ⟨status, some "text/plain; charset=utf-8", .text s⟩

def ofStatus (status : Nat) : Response := ⟨status, none, .empty⟩

def ofError (e : ServiceError) : Response :=
  .ofJson e.status (.obj [("error", .str e.kind), ("message", .str e.message)])

def notFound : Response := .ofStatus 404

def wrongMethod : Response := .ofStatus 405

def bodyTooLarge : Response :=
  .ofText 413 "Failed to buffer the request body: length limit exceeded"

/-- The answer to a request that wants no content. -/
def withoutContent (response : Response) : Response := { response with content := .empty }

end Response

/-! ### Health -/

def serviceName : String := "sdui"

/-- The service is up. -/
def healthy : Response :=
  .ofJson 200 (.obj [("service", .str serviceName), ("status", .str "healthy")])

/-- Whether the templates can be reached. -/
def readiness (store : Store) : Response :=
  match store.ping with
  | .ok () => .ofJson 200 (.obj [("service", .str serviceName), ("status", .str "ready")])
  | .error e => .ofJson 503 (.obj [("reason", .str e.message), ("service", .str serviceName),
      ("status", .str "unavailable")])

/-! ### Screens -/

/-- Resolves the screen asked for and answers with what is made of it. A request that
is not understood reaches neither the store nor the resolver. -/
def answerScreen (store : Store) (resolver : Resolver) (asked : Except BadRequest ScreenRequest)
    (answer : ScreenRequest → Document → Json) : Response × Resolver :=
  match asked with
  | .error reason => (.ofError (.badRequest reason), resolver)
  | .ok request =>
    match resolver.resolve store request.screenId request.context with
    | (.ok document, resolver) => (.ofJson 200 (answer request document), resolver)
    | (.error e, resolver) => (.ofError (.resolve e), resolver)

/-- The tree of a document for a request. -/
def drawn (limit : Nat) (request : ScreenRequest) (document : Document) : RenderTree :=
  document.render limit (request.context.environment.overlay request.bindings)

/-- The answer at an endpoint. -/
def Endpoint.answer (endpoint : Endpoint) (store : Store) (limit : Nat) (resolver : Resolver)
    (request : Request) : Response × Resolver :=
  match endpoint with
  | health => (healthy, resolver)
  | ready => (readiness store, resolver)
  | screen segment =>
    answerScreen store resolver (request.screen segment false) fun _ d => d.encode
  | render segment =>
    if bodyLimit < request.body.length then (.bodyTooLarge, resolver)
    else answerScreen store resolver (request.screen segment true) fun r d =>
      (drawn limit r d).encode

/-- The answer to a request; `limit` is how deep screens are drawn. -/
def respond (store : Store) (limit : Nat) (resolver : Resolver) (request : Request) :
    Response × Resolver :=
  match Endpoint.ofPath? request.path with
  | none => (.notFound, resolver)
  | some endpoint =>
    if !endpoint.accepts request.method then (.wrongMethod, resolver)
    else
      let (response, resolver) := endpoint.answer store limit resolver request
      (if request.method = "HEAD" then response.withoutContent else response, resolver)

end Screens
