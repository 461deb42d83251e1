import Screens.Network.Url

/-! Fetching a resource: what the network answers, and what comes of it. -/
namespace Screens

inductive FetchError where
  /-- No request can be made for the URL. -/
  | notRequestable (url : String)
  /-- No answer came. -/
  | unreachable (url : String)
  /-- The answer is one of failure. -/
  | status (code : Nat) (url : String)
  | tooLarge (size limit : Nat)
  | unsupportedUrl (url : String)
deriving DecidableEq

/-- What a status is called. -/
def statusName (code : Nat) : String :=
  match code with
  | 400 => "Bad Request"
  | 401 => "Unauthorized"
  | 402 => "Payment Required"
  | 403 => "Forbidden"
  | 404 => "Not Found"
  | 405 => "Method Not Allowed"
  | 406 => "Not Acceptable"
  | 407 => "Proxy Authentication Required"
  | 408 => "Request Timeout"
  | 409 => "Conflict"
  | 410 => "Gone"
  | 411 => "Length Required"
  | 412 => "Precondition Failed"
  | 413 => "Payload Too Large"
  | 414 => "URI Too Long"
  | 415 => "Unsupported Media Type"
  | 416 => "Range Not Satisfiable"
  | 417 => "Expectation Failed"
  | 418 => "I'm a teapot"
  | 421 => "Misdirected Request"
  | 422 => "Unprocessable Entity"
  | 423 => "Locked"
  | 424 => "Failed Dependency"
  | 425 => "Too Early"
  | 426 => "Upgrade Required"
  | 428 => "Precondition Required"
  | 429 => "Too Many Requests"
  | 431 => "Request Header Fields Too Large"
  | 451 => "Unavailable For Legal Reasons"
  | 500 => "Internal Server Error"
  | 501 => "Not Implemented"
  | 502 => "Bad Gateway"
  | 503 => "Service Unavailable"
  | 504 => "Gateway Timeout"
  | 505 => "HTTP Version Not Supported"
  | 506 => "Variant Also Negotiates"
  | 507 => "Insufficient Storage"
  | 508 => "Loop Detected"
  | 510 => "Not Extended"
  | 511 => "Network Authentication Required"
  | _ => "<unknown status code>"

def FetchError.message : FetchError → String
  | notRequestable url => s!"Fetch failed: builder error for url ({url})"
  | unreachable url => s!"Fetch failed: error sending request for url ({url})"
  | status code url =>
    let side := if code < 500 then "client" else "server"
    s!"Fetch failed: HTTP status {side} error ({code} {statusName code}) for url ({url})"
  | tooLarge size limit => s!"Resource is {size} bytes, limit is {limit}"
  | unsupportedUrl url => s!"Unsupported resource URL '{url}'"

/-- What the network answers. -/
structure FetchAnswer where
  status : Nat
  /-- The size told before the content, if any. -/
  announced : Option Nat
  content : List UInt8
deriving DecidableEq

/-- The content, unless the answer is one of failure or is too large. -/
def FetchAnswer.content? (answer : FetchAnswer) (url : String) (limit : Nat) :
    Except FetchError (List UInt8) := do
  if 400 ≤ answer.status ∧ answer.status < 600 then throw (.status answer.status url)
  if let some size := answer.announced then
    if limit < size then throw (.tooLarge size limit)
  if limit < answer.content.length then throw (.tooLarge answer.content.length limit)
  return answer.content

/-- What comes of fetching a URL to which the network gives this answer, if any. -/
def WebUrl.fetched (url : WebUrl) (limit : Nat) (answer : Option FetchAnswer) :
    Except FetchError (List UInt8) :=
  if !url.isRequestable then .error (.notRequestable url.render)
  else match answer with
    | none => .error (.unreachable url.render)
    | some answer => answer.content? url.render limit

end Screens
