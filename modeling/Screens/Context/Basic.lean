import Screens.Context.Timestamp
import Screens.Environment.Basic
import Screens.Json.Record

/-! The context of a request: who asks, from where, for when.

It picks the variant of a template and provides the first bindings. -/
namespace Screens

structure Context where
  userId : Option String
  routeId : Option String
  serviceDate : Option Timestamp
  deviceModel : Option String
  appVersion : Option String
  locale : Option String
deriving DecidableEq

namespace Context

def empty : Context := ⟨none, none, none, none, none, none⟩

def forUser (userId : String) : Context := { empty with userId := some userId }

def withLocale (c : Context) (locale : String) : Context := { c with locale := some locale }

/-! ### Variants -/

def normalized (locale : List Char) : List Char := locale.map fun c => if c = '_' then '-' else c

/-- The part before the first hyphen, if there is one and something before it. -/
def language? (tag : List Char) : Option (List Char) :=
  let before := tag.takeWhile (· != '-')
  if before.length < tag.length ∧ !before.isEmpty then some before else none

/-- The variants of a template to try, the most specific first: the locale with
hyphens, then its language. The template without a variant comes after these. -/
def variants (c : Context) : List String :=
  match c.locale.map fun l => trimBlank l.toList with
  | none | some [] => []
  | some locale =>
    let tag := normalized locale
    (tag :: (language? tag).toList).map String.ofList

/-! ### Bindings -/

/-- The bindings of the parts that are present. -/
def environment (c : Context) : Environment :=
  let bind (key : String) (v : Option String) (env : Environment) : Environment :=
    match v with
    | some s => env.insert key (.str s)
    | none => env
  bind "locale" c.locale <| bind "app.version" c.appVersion <| bind "device.model" c.deviceModel <|
    bind "service.date" (c.serviceDate.map (·.render false)) <| bind "route.id" c.routeId <|
    bind "user.id" c.userId .empty

/-! ### Encoding and decoding -/

def partNames : List String :=
  ["userId", "routeId", "serviceDate", "deviceModel", "appVersion", "locale"]

/-- A part that may be missing or `null`, and is else a text. -/
def text? (name : String) (parts : List (String × Json)) : Option (Option String) :=
  match parts.lookup name with
  | none | some .null => some none
  | some (.str s) => some (some s)
  | some _ => none

def decode? (v : Json) : Option Context := do
  let parts ← v.parts? partNames
  let userId ← text? "userId" parts
  let routeId ← text? "routeId" parts
  let serviceDate ← match ← text? "serviceDate" parts with
    | none => some none
    | some s => (Timestamp.ofLenient? s).map some
  let deviceModel ← text? "deviceModel" parts
  let appVersion ← text? "appVersion" parts
  let locale ← text? "locale" parts
  return { userId, routeId, serviceDate, deviceModel, appVersion, locale }

def encode (c : Context) : Json :=
  .ofMembers [("userId", c.userId.map .str), ("routeId", c.routeId.map .str),
    ("serviceDate", c.serviceDate.map fun t => .str (t.render true)),
    ("deviceModel", c.deviceModel.map .str), ("appVersion", c.appVersion.map .str),
    ("locale", c.locale.map .str)]

end Context
end Screens
