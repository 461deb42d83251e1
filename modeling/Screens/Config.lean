import Screens.Disk.Basic
import Screens.Json.Record
import Screens.Network.SocketAddress
import Screens.Toml.Reader
import Screens.Wording

/-! The configuration of the service.

Every setting has a default, so an empty file is a configuration. What is read has
to have the right shape; whether the service can start with it is asked afterwards,
and the first fault in the order of the settings counts. -/
namespace Screens

structure ServerSettings where
  bindAddress : String
deriving DecidableEq

structure TemplateSettings where
  directory : Option String
  /-- Fetch every template at the start. -/
  preload : Bool
deriving DecidableEq

structure InterpreterSettings where
  maxDepth : UInt64
deriving DecidableEq

structure ResourceSettings where
  fetchTimeoutSeconds : UInt64
  /-- The largest resource accepted. -/
  maxBytes : UInt64
  /-- How much is kept before the oldest is dropped. -/
  cacheBytes : UInt64
deriving DecidableEq

structure Config where
  server : ServerSettings
  templates : TemplateSettings
  interpreter : InterpreterSettings
  resources : ResourceSettings
deriving DecidableEq

namespace Config

def standard : Config :=
  { server := ⟨"127.0.0.1:8080"⟩
    templates := ⟨none, false⟩
    interpreter := ⟨32⟩
    resources := ⟨10, 5 * 1024 * 1024, 64 * 1024 * 1024⟩ }

/-! ### Faults -/

/-- A value the service cannot start with. -/
inductive Fault where
  | notAnAddress (text : String)
  | depthOutside (depth : UInt64)
  | noFetchTime
  | cacheTooSmall (cacheBytes maxBytes : UInt64)
deriving DecidableEq

def depthLimit : UInt64 := 256

def Fault.message : Fault → String
  | notAnAddress text =>
    s!"Invalid server.bind_addr: '{text}' is not host:port ({SocketAddress.errorText})"
  | depthOutside depth => s!"Invalid interpreter.max_depth: {depth} is outside 1..={depthLimit}"
  | noFetchTime => "Invalid resources.fetch_timeout_seconds: must be at least 1"
  | cacheTooSmall cacheBytes maxBytes =>
    s!"Invalid resources.cache_bytes: {cacheBytes} is smaller than resources.max_bytes ({maxBytes})"

inductive Error where
  | unreadable (path : String) (error : DiskError)
  | malformed (path : String)
  | invalid (fault : Fault)
deriving DecidableEq

def Error.message [Wording] : Error → String
  | unreadable path error => s!"Cannot read config '{path}': {error.message}"
  | malformed path => s!"Config '{path}' is not valid TOML for sdui: {Wording.settings path}"
  | invalid fault => fault.message

/-- The first fault. -/
def fault? (c : Config) : Option Fault :=
  if (SocketAddress.ofString? c.server.bindAddress).isNone then
    some (.notAnAddress c.server.bindAddress)
  else if c.interpreter.maxDepth < 1 ∨ depthLimit < c.interpreter.maxDepth then
    some (.depthOutside c.interpreter.maxDepth)
  else if c.resources.fetchTimeoutSeconds = 0 then some .noFetchTime
  else if c.resources.cacheBytes < c.resources.maxBytes then
    some (.cacheTooSmall c.resources.cacheBytes c.resources.maxBytes)
  else none

/-- The configuration, if the service can start with it. -/
def validated (c : Config) : Except Error Config :=
  match c.fault? with
  | some fault => .error (.invalid fault)
  | none => .ok c

theorem fault?_of_validated {c valid : Config} (h : c.validated = .ok valid) :
    valid.fault? = none := by
  unfold validated at h
  split at h
  · cases h
  · rename_i hfault
    cases h
    exact hfault

/-! ### Reading -/

/-- How a format's values are looked at. -/
structure View (α : Type) where
  /-- The members of a record with parts in this order. -/
  parts? : List String → α → Option (List (String × α))
  text? : α → Option String
  flag? : α → Option Bool
  count? : α → Option UInt64
  isAbsent : α → Bool

section Decode
variable {α : Type} (view : View α)

/-- A part of a record, or its default where it is missing. -/
def part {β : Type} (parts : List (String × α)) (name : String) (read : α → Option β)
    (default : β) : Option β :=
  match parts.lookup name with
  | some v => read v
  | none => some default

def decodeServer? (v : α) : Option ServerSettings := do
  let parts ← view.parts? ["bind_addr"] v
  return ⟨← part parts "bind_addr" view.text? standard.server.bindAddress⟩

def decodeTemplates? (v : α) : Option TemplateSettings := do
  let parts ← view.parts? ["directory", "preload"] v
  let directory (v : α) : Option (Option String) :=
    if view.isAbsent v then some none else (view.text? v).map some
  return ⟨← part parts "directory" directory standard.templates.directory,
    ← part parts "preload" view.flag? standard.templates.preload⟩

def decodeInterpreter? (v : α) : Option InterpreterSettings := do
  let parts ← view.parts? ["max_depth"] v
  return ⟨← part parts "max_depth" view.count? standard.interpreter.maxDepth⟩

def decodeResources? (v : α) : Option ResourceSettings := do
  let parts ← view.parts? ["fetch_timeout_seconds", "max_bytes", "cache_bytes"] v
  let standard := standard.resources
  return ⟨← part parts "fetch_timeout_seconds" view.count? standard.fetchTimeoutSeconds,
    ← part parts "max_bytes" view.count? standard.maxBytes,
    ← part parts "cache_bytes" view.count? standard.cacheBytes⟩

def decode? (v : α) : Option Config := do
  let parts ← view.parts? ["server", "templates", "interpreter", "resources"] v
  return ⟨← part parts "server" (decodeServer? view) standard.server,
    ← part parts "templates" (decodeTemplates? view) standard.templates,
    ← part parts "interpreter" (decodeInterpreter? view) standard.interpreter,
    ← part parts "resources" (decodeResources? view) standard.resources⟩

end Decode

def jsonView : View Json :=
  { parts? := Json.parts?
    text? := Json.text?
    flag? := Json.bool?
    count? := Json.count?
    isAbsent := Json.isNull }

def ofJson? (v : Json) : Option Config := decode? jsonView v

/-- In a list that stands for a record, items past the last part do not count; a date
or time is a record of parts that no section has. -/
def tomlView : View Toml.Value :=
  { parts? := fun names v => match v with
      | .table _ members => some members
      | .moment _ => some []
      | v => v.items?.map names.zip
    text? := fun
      | .text s => some s
      | _ => none
    flag? := fun
      | .flag b => some b
      | _ => none
    count? := fun
      | .integer n => if 0 ≤ n ∧ n.toNat < power 2 64 then some (UInt64.ofNat n.toNat) else none
      | _ => none
    isAbsent := fun _ => false }

def ofToml? (text : String) : Option Config := do
  decode? tomlView (.table .headed (← Toml.read? text))

/-! ### Writing -/

def encode (c : Config) : Json :=
  .obj [
    ("server", .obj [("bind_addr", .str c.server.bindAddress)]),
    ("templates", .obj [("directory", (c.templates.directory.map Json.str).getD .null),
      ("preload", .bool c.templates.preload)]),
    ("interpreter", .obj [("max_depth", .ofCount c.interpreter.maxDepth)]),
    ("resources", .obj [("fetch_timeout_seconds", .ofCount c.resources.fetchTimeoutSeconds),
      ("max_bytes", .ofCount c.resources.maxBytes),
      ("cache_bytes", .ofCount c.resources.cacheBytes)])]

/-! ### Files -/

/-- What a file holds, whether or not the service can start with it. -/
def readFile (disk : Disk) (path : String) : Except Error Config := do
  let text ← (disk.readText path).mapError (.unreadable path)
  match ofToml? text with
  | some c => return c
  | none => throw (.malformed path)

/-- The configuration of a file. -/
def load (disk : Disk) (path : String) : Except Error Config := do
  (← readFile disk path).validated

/-- Where the configuration is kept below a home directory. -/
def standardPath (home : String) : String := Disk.join home "sdui/config.toml"

/-- The configuration below a home directory; without a file the standard one. -/
def loadStandard (disk : Disk) (home : String) : Except Error Config :=
  if disk.holds (standardPath home) then load disk (standardPath home) else .ok standard

end Config
end Screens
