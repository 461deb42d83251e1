import Screens.Context.Query
import Screens.Network.SocketAddress
import Screens.Resolver

/-! What can go wrong in the service, and how it is answered.

What a library said of an input that it turned down is passed on (`Wording`). -/
namespace Screens

/-- Why a request cannot be understood. -/
inductive BadRequest where
  /-- The screen id in the path is no UTF-8. -/
  | path
  /-- A parameter of the query comes again. -/
  | query (parameter : String)
  | serviceDate (bad : BadServiceDate)
  | body (fault : Json.Fault) (text : Json.Bytes)
deriving DecidableEq

/-- Why the service cannot listen on an address. -/
inductive ListenError where
  | notAnAddress
  | notAvailable
  /-- The machine keeps the port from this service. -/
  | notPermitted
  | other (text : String)
deriving DecidableEq

inductive ServiceError where
  | resolve (error : ResolveError)
  | badRequest (reason : BadRequest)
  | cannotListen (address : String) (reason : ListenError)
  /-- The service was to run before it had an address. -/
  | notListening
deriving DecidableEq

def BadRequest.message [Wording] : BadRequest → String
  | path => Wording.path
  | query parameter => Wording.query parameter
  | serviceDate bad =>
    s!"serviceDate '{bad.text}' is not RFC 3339: {Wording.timestamp bad.text}"
  | body fault text => s!"invalid render request body: {Wording.body fault text}"

def ListenError.message : ListenError → String
  | notAnAddress => SocketAddress.errorText
  | notAvailable => "Cannot assign requested address (os error 99)"
  | notPermitted => "Permission denied (os error 13)"
  | other text => text

namespace ServiceError

def message [Wording] : ServiceError → String
  | resolve error => error.message
  | badRequest reason => s!"Invalid request: {reason.message}"
  | cannotListen address reason => s!"Failed to bind {address}: {reason.message}"
  | notListening => "Internal error: bind() must be called before run()"

/-- The word for the kind of error. -/
def kind : ServiceError → String
  | resolve .invalidScreenId => "invalid_screen_id"
  | resolve (.notFound _) => "not_found"
  | resolve (.storeUnavailable _) => "store_unavailable"
  | resolve (.invalidTemplate ..) => "invalid_template"
  | badRequest _ => "invalid_request"
  | cannotListen .. | notListening => "internal_error"

/-- The status of the answer. -/
def status : ServiceError → Nat
  | resolve .invalidScreenId | badRequest _ => 400
  | resolve (.notFound _) => 404
  | resolve (.storeUnavailable _) => 503
  | resolve (.invalidTemplate ..) | cannotListen .. | notListening => 500

end ServiceError
end Screens
