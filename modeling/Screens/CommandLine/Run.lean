import Screens.CommandLine.Arguments
import Screens.Config
import Screens.Json.Printer
import Screens.Render.Evaluate
import Screens.Render.Wire
import Screens.Service.Server
import Screens.Store.Directory

/-! What the commands do.

`check` reads a document and lists what would not be drawn. `render` resolves a screen
in a directory and prints its tree. `serve` reads the configuration, puts the options
given in its place, and listens. A command that fails tells why, from the failure
itself down to its first cause. -/
namespace Screens.CommandLine

variable [Wording]

/-- One reason in the account of a failure. -/
inductive Cause where
  | text (s : String)
  /-- A text is no JSON of the shape wanted. -/
  | json (fault : Json.Fault)
  /-- A text is no configuration. -/
  | toml
deriving DecidableEq

/-- The account of a failure, the failure itself first. -/
abbrev Account := List Cause

/-- What is needed to serve: where, and what. -/
structure Service where
  address : SocketAddress
  templates : TemplateDirectory
  resolver : Resolver
  maxDepth : Nat
deriving DecidableEq

inductive Outcome where
  | done (output : String)
  | failed (output : String) (account : Account)
  | serving (service : Service)
deriving DecidableEq

/-- What a command finds around it. -/
structure Surroundings where
  disk : Disk
  configHome : String
  listen : Listen

/-! ### Accounts -/

def diskAccount (doing : String) (e : DiskError) : Account := [.text doing, .text e.message]

def storeAccount (e : StoreError) : Account :=
  .text e.message :: match e with
    | .unavailable .. => []
    | .malformed _ fault _ => [.json fault]
    | .unreadable _ error => [.text error.message]

def resolveAccount (e : ResolveError) : Account :=
  .text e.message :: match e with
    | .invalidScreenId | .notFound _ => []
    | .storeUnavailable error | .invalidTemplate _ error => storeAccount error

def configAccount (e : Config.Error) : Account :=
  .text e.message :: match e with
    | .unreadable _ error => [.text error.message]
    | .malformed _ => [.toml]
    | .invalid _ => []

def serviceAccount (e : ServiceError) : Account :=
  match e with
  | .resolve error => resolveAccount error
  | .cannotListen _ reason => [.text e.message, .text reason.message]
  | .badRequest _ | .notListening => [.text e.message]

/-! ### Check -/

/-- A line on a node that would not be drawn. -/
def degradedLine (d : Document) (node : Document.Degraded) : String :=
  let id := node.id.getD "<anonymous>"
  let typeName := node.typeName.getD "<missing type>"
  s!"{d.id}: {id} ({typeName}): {node.reason.message}\n"

def check (disk : Disk) (file : String) : Outcome :=
  match disk.read file with
  | .error e => .failed "" (diskAccount s!"reading {file}" e)
  | .ok bytes =>
    match Document.read bytes with
    | .error fault => .failed "" [.text s!"{file} is not a screen document", .json fault]
    | .ok d =>
      match d.degradedNodes with
      | [] => .done s!"{d.id}: ok ({d.components.length} top-level components)\n"
      | nodes => .failed (String.join (nodes.map (degradedLine d)))
          [.text s!"{nodes.length} degraded node(s) in {file}"]

/-! ### Render -/

/-- The bindings of an environment file. -/
def readBindings (disk : Disk) (path : String) : Except Account Environment := do
  let text ← (disk.readText path).mapError (diskAccount s!"reading environment file {path}")
  let v ← (Json.readLimited text.toUTF8.toList).mapError fun fault =>
    [.text s!"parsing environment file {path}", .json fault]
  match v with
  | .obj _ => return .ofJson v
  | _ => throw [.text s!"environment file {path} must hold a JSON object"]

/-- The tree of a screen in a directory. -/
def renderTree (disk : Disk) (screenId templates : String) (env locale user : Option String) :
    Except Account RenderTree := do
  let directory : TemplateDirectory := ⟨templates⟩
  (directory.ping disk).mapError fun e =>
    .text s!"template directory {templates}" :: storeAccount e
  let context : Context := { Context.empty with userId := user, locale }
  let d ← (Resolver.empty.resolve (directory.store disk) screenId context).1.mapError resolveAccount
  let bindings ← match env with
    | some path => readBindings disk path
    | none => pure .empty
  return d.render standardDepth (context.environment.overlay bindings)

def render (disk : Disk) (screenId templates : String)
    (env locale user : Option String) : Outcome :=
  match renderTree disk screenId templates env locale user with
  | .ok tree => .done (tree.encode.renderIndented ++ "\n")
  | .error account => .failed "" account

/-! ### Serve -/

/-- The configuration with the options given in place of what it says. -/
def overridden (c : Config) (bind templates : Option String) : Config :=
  { c with
    server := { bindAddress := bind.getD c.server.bindAddress }
    templates := { c.templates with directory := templates.or c.templates.directory } }

def noDirectoryText : String :=
  "no template directory: set [templates].directory or pass --templates"

/-- The configuration to serve with, and its template directory. What the file says has
to be valid by itself, also where an option takes its place. -/
def serveConfig (around : Surroundings) (config bind templates : Option String) :
    Except Account (Config × String) := do
  let loaded ← match config with
    | some path => (Config.load around.disk path).mapError configAccount
    | none => (Config.loadStandard around.disk around.configHome).mapError configAccount
  let c ← ((overridden loaded bind templates).validated).mapError configAccount
  match c.templates.directory with
  | some directory => return (c, directory)
  | none => throw [.text noDirectoryText]

/-- Gets ready to serve. -/
def startServing (around : Surroundings) (config bind templates : Option String) :
    Except Account Service := do
  let (c, directory) ← serveConfig around config bind templates
  let directory : TemplateDirectory := ⟨directory⟩
  let resolver ← if c.templates.preload then
      match Resolver.empty.warm (directory.store around.disk) with
      | (.ok _, resolver) => pure resolver
      | (.error e, _) => throw (resolveAccount e)
    else pure .empty
  let address ← (Server.fresh.bind around.listen c.server.bindAddress).1.mapError serviceAccount
  return ⟨address, directory, resolver, c.interpreter.maxDepth.toNat⟩

def serve (around : Surroundings) (config bind templates : Option String) : Outcome :=
  match startServing around config bind templates with
  | .ok service => .serving service
  | .error account => .failed "" account

/-- The line that tells where the service listens; `port` is how the port is shown. -/
def listeningLine (address : SocketAddress) (port : String) : String :=
  s!"sdui listening on http://{address.hostText}:{port}"

/-- Does what a command says. -/
def run (around : Surroundings) : Command → Outcome
  | .serve config bind templates => serve around config bind templates
  | .render screenId templates env locale user =>
    render around.disk screenId templates env locale user
  | .check file => check around.disk file

end Screens.CommandLine
