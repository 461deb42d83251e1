import Screens.CommandLine.Run
import Screens.Service.Router

/-! The program.

It takes a picture of the files a command names, does the command on that, and
prints. A service that is started answers requests from its standard input, one on a
line: a method, a target and, after a space, a body. -/
namespace Screens.Program

/-! ### Files -/

def diskError : IO.Error → DiskError
  | .noFileOrDirectory .. => .notFound
  | .inappropriateType _ 21 _ => .isADirectory
  | .inappropriateType .. => .notADirectory
  | .invalidArgument _ 36 _ => .nameTooLong
  | e => .other (toString e)

/-- What is at a path. The names in a directory are not looked at. -/
def entryAt (path : String) : IO (Except DiskError DiskEntry) := do
  if path.toList.contains '\x00' then return .error .nulInPath
  try
    return .ok (.file (← IO.FS.readBinFile path).toList)
  catch e =>
    match diskError e with
    | .isADirectory => return .ok (.directory [])
    | e => return .error e

/-- A picture of what is at these paths. -/
def picture (paths : List String) : IO Disk := do
  return .ofEntries (← paths.mapM fun path => return (path, ← entryAt path))

/-- The paths a screen's templates can be at. -/
def templatePaths (templates : TemplateDirectory) (screenId : String) (context : Context) :
    List String :=
  templates.root :: (candidates (trimmed screenId) context).filterMap templates.path?

/-! ### Commands -/

/-- Where configurations are kept, as the surroundings tell. -/
def configHome : IO String := do
  match ← IO.getEnv "XDG_CONFIG_HOME" with
  | some home => if home.startsWith "/" then return home
  | none => pure ()
  match ← IO.getEnv "HOME" with
  | some home => return Disk.join home ".config"
  | none => return "."

/-- The paths a command looks at first. -/
def firstPaths (home : String) : CommandLine.Command → List String
  | .serve config .. => [config.getD (Config.standardPath home)]
  | .render screenId templates env locale user =>
    templatePaths ⟨templates⟩ screenId { Context.empty with userId := user, locale } ++ env.toList
  | .check file => [file]

/-- All paths a command looks at: a service's templates are where its configuration says. -/
def paths (around : CommandLine.Surroundings) (first : List String) :
    CommandLine.Command → List String
  | .serve config bind templates =>
    match CommandLine.serveConfig around config bind templates with
    | .ok (_, directory) => first ++ [directory]
    | .error _ => first
  | _ => first

def usageText : String :=
  "Usage: sdui serve [--config FILE] [--bind ADDRESS] [--templates DIRECTORY]\n" ++
  "       sdui render SCREEN_ID --templates DIRECTORY [--env FILE] [--locale TAG] [--user ID]\n" ++
  "       sdui check FILE"

/-! ### Serving -/

/-- A request on a line. -/
def requestOf (line : String) : Request :=
  match line.splitOn " " with
  | method :: target :: rest => .ofTarget method target (" ".intercalate rest).toUTF8.toList none
  | _ => .ofTarget "GET" line [] none

/-- The paths the answer to a request depends on. -/
def requestPaths (templates : TemplateDirectory) (request : Request) : List String :=
  match Endpoint.ofPath? request.path with
  | some (.screen segment) | some (.render segment) =>
    match request.screen segment false with
    | .ok asked => templatePaths templates asked.screenId asked.context
    | .error _ => []
  | _ => [templates.root]

def contentText : Content → String
  | .empty => ""
  | .json v => v.render
  | .text s => s

partial def answerLines (input output : IO.FS.Stream)
    (service : CommandLine.Service) : IO Unit := do
  let line ← input.getLine
  if line.isEmpty then return
  let request := requestOf (line.toList.takeWhile (· != '\n') |> String.ofList)
  let disk ← picture (requestPaths service.templates request)
  let (response, resolver) :=
    respond (service.templates.store disk) service.maxDepth service.resolver request
  output.putStrLn s!"{response.status} {contentText response.content}"
  output.flush
  answerLines input output { service with resolver }

/-! ### The whole -/

/-- The program's own words for a cause; what a library says of a text is left out. -/
def ownWords? : CommandLine.Cause → Option String
  | .text s => some s
  | .json _ | .toml => none

def runCommand (command : CommandLine.Command) : IO UInt32 := do
  let home ← configHome
  let first := firstPaths home command
  let around (disk : Disk) : CommandLine.Surroundings := ⟨disk, home, .ok⟩
  let disk ← picture (paths (around (← picture first)) first command)
  match CommandLine.run (around disk) command with
  | .done output =>
    (← IO.getStdout).putStr output
    return 0
  | .failed output account =>
    (← IO.getStdout).putStr output
    for text in account.filterMap ownWords? do
      (← IO.getStderr).putStrLn text
    return 1
  | .serving service =>
    let output ← IO.getStdout
    output.putStrLn (CommandLine.listeningLine service.address (toString service.address.port))
    answerLines (← IO.getStdin) output service
    return 0

end Screens.Program

def main (args : List String) : IO UInt32 := do
  match Screens.CommandLine.parse args with
  | .ok command => Screens.Program.runCommand command
  | .error usage =>
    (← if usage.exitCode = 0 then IO.getStdout else IO.getStderr).putStrLn Screens.Program.usageText
    return UInt32.ofNat usage.exitCode
