import Screens.Context.Basic

/-! The query of a request: a context as it is written in a URL.

Every part is text, and blank text counts as absent. -/
namespace Screens

structure Query where
  userId : Option String
  routeId : Option String
  serviceDate : Option String
  deviceModel : Option String
  appVersion : Option String
  locale : Option String
deriving DecidableEq

/-- The service date is no timestamp. -/
structure BadServiceDate where
  text : String
deriving DecidableEq

namespace Query

def nonBlank (v : Option String) : Option String := v.filter fun s => !(trimBlank s.toList).isEmpty

def context (q : Query) : Except BadServiceDate Context := do
  let serviceDate ← match nonBlank q.serviceDate with
    | none => pure none
    | some s => match Timestamp.ofStrict? s with
      | some t => pure (some t)
      | none => throw ⟨s⟩
  return {
    userId := nonBlank q.userId
    routeId := nonBlank q.routeId
    serviceDate
    deviceModel := nonBlank q.deviceModel
    appVersion := nonBlank q.appVersion
    locale := nonBlank q.locale }

/-- The query of these parameters. -/
def ofParts? (parts : List (String × Json)) : Option Query := do
  let userId ← Context.text? "userId" parts
  let routeId ← Context.text? "routeId" parts
  let serviceDate ← Context.text? "serviceDate" parts
  let deviceModel ← Context.text? "deviceModel" parts
  let appVersion ← Context.text? "appVersion" parts
  let locale ← Context.text? "locale" parts
  return { userId, routeId, serviceDate, deviceModel, appVersion, locale }

/-- An array has to hold all parts. -/
def decode? (v : Json) : Option Query :=
  match v with
  | .arr items =>
    if items.length = Context.partNames.length then ofParts? (Context.partNames.zip items) else none
  | .obj fields => ofParts? fields
  | _ => none

end Query
end Screens
