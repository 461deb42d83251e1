import Screens.Json.Reader

/-! What the library sees of a file system: at a path there is a file with its
content, a directory with the names in it, or a reason why neither can be told. -/
namespace Screens

/-- Why a path cannot be read. -/
inductive DiskError where
  | notFound
  | notADirectory
  | isADirectory
  | nameTooLong
  /-- A path cannot hold the character NUL. -/
  | nulInPath
  /-- The content is no UTF-8. -/
  | invalidText
  | other (text : String)
deriving DecidableEq

def DiskError.message : DiskError → String
  | notFound => "No such file or directory (os error 2)"
  | notADirectory => "Not a directory (os error 20)"
  | isADirectory => "Is a directory (os error 21)"
  | nameTooLong => "File name too long (os error 36)"
  | nulInPath => "file name contained an unexpected NUL byte"
  | invalidText => "stream did not contain valid UTF-8"
  | other text => text

inductive DiskEntry where
  | file (content : Json.Bytes)
  | directory (names : List String)
deriving DecidableEq

structure Disk where
  entry : String → Except DiskError DiskEntry

namespace Disk

/-- The content of a file. -/
def read (disk : Disk) (path : String) : Except DiskError Json.Bytes := do
  match ← disk.entry path with
  | .file content => return content
  | .directory _ => throw .isADirectory

/-- The content of a file of text. -/
def readText (disk : Disk) (path : String) : Except DiskError String := do
  match String.fromUTF8? ⟨(← disk.read path).toArray⟩ with
  | some text => return text
  | none => throw .invalidText

/-- The names in a directory. -/
def names (disk : Disk) (path : String) : Except DiskError (List String) := do
  match ← disk.entry path with
  | .directory names => return names
  | .file _ => throw .notADirectory

def holds (disk : Disk) (path : String) : Bool := (disk.entry path).toOption.isSome

/-- A path below a directory: nothing is put before a name without one. -/
def join (directory name : String) : String :=
  if directory.isEmpty then name
  else if directory.endsWith "/" then directory ++ name
  else directory ++ "/" ++ name

/-- A disk of which only these paths are known. -/
def ofEntries (entries : List (String × Except DiskError DiskEntry)) : Disk :=
  ⟨fun path => (entries.lookup path).getD (.error .notFound)⟩

end Disk
end Screens
