import Screens.Json.Reader

/-! The words of others.

Some of what is said of an input that is turned down comes from the library that looked at
it. The program passes these words on as they are, and nothing it does depends on them. -/
namespace Screens

/-- What the libraries say of the inputs they turn down. -/
class Wording where
  /-- Of a path in which the screen id is no UTF-8. -/
  path : String
  /-- Of a query in which this parameter comes again. -/
  query (parameter : String) : String
  /-- Of a text that is no timestamp. -/
  timestamp (text : String) : String
  /-- Of a text that is no screen document. -/
  document (fault : Json.Fault) (text : Json.Bytes) : String
  /-- Of a body that is no record of bindings. -/
  body (fault : Json.Fault) (text : Json.Bytes) : String
  /-- Of the file at a path, which is no table of settings. -/
  settings (path : String) : String

namespace Wording

def ofFault : Json.Fault → String
  | .ended => "the text ended too early"
  | .malformed => "the text is malformed"
  | .mismatched => "the value has the wrong shape"

/-- Plain words, for where no others are given. -/
instance plain : Wording where
  path := "Invalid URL: Invalid UTF-8 in `screen_id`"
  query parameter := s!"Failed to deserialize query string: {parameter} comes again"
  timestamp _ := "it has another form"
  document fault _ := ofFault fault
  body fault _ := ofFault fault
  settings _ := "the text is not a table of settings"

end Wording
end Screens
