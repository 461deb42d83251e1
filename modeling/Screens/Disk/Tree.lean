import Screens.Disk.Basic

/-! A file system held as a tree, in which paths start somewhere.

A path is a list of segments with slashes between them. It starts at the root if it
is absolute, else in the working directory. The empty segment and `.` stay where they are,
`..` goes back to the directory above, and from the root it leads nowhere else. -/
namespace Screens

inductive FileTree where
  | file (content : Json.Bytes)
  | directory (entries : List (String × FileTree))

namespace FileTree

def empty : FileTree := directory []

instance : Inhabited FileTree := ⟨empty⟩

/-- The longest name a directory can hold, in bytes. -/
def longestName : Nat := 255

def stays (segment : String) : Bool := segment.isEmpty || segment == "."

def goesUp (segment : String) : Bool := segment == ".."

/-- Goes down the segments; `above` are the directories passed, the nearest first. -/
def follow (above : List FileTree) (here : FileTree) : List String → Except DiskError FileTree
  | [] => .ok here
  | name :: rest =>
    match here with
    | file _ => .error .notADirectory
    | directory entries =>
      if stays name then follow above here rest
      else if goesUp name then
        match above with
        | up :: more => follow more up rest
        | [] => follow [] here rest
      else if longestName < name.utf8ByteSize then .error .nameTooLong
      else match entries.lookup name with
        | some entry => follow (here :: above) entry rest
        | none => .error .notFound

def entry : FileTree → DiskEntry
  | file content => .file content
  | directory entries => .directory (entries.map (·.1))

/-- The names that segments lead through in the end. -/
def names (segments : List String) : List String :=
  segments.foldl (fun names segment =>
    if stays segment then names else if goesUp segment then names.dropLast
    else names ++ [segment]) []

/-- Puts an entry at the end of the names, making the directories on the way. -/
def putAt (entry : FileTree) : List String → FileTree → FileTree
  | [], _ => entry
  | name :: rest, here =>
    let entries := match here with
      | directory entries => entries
      | file _ => []
    directory (Entries.insert name (putAt entry rest ((entries.lookup name).getD empty)) entries)

/-- Takes away what is at the end of the names. -/
def removeAt : List String → FileTree → FileTree
  | _, file content => file content
  | [], here => here
  | [name], directory entries => directory (entries.filter (·.1 != name))
  | name :: rest, directory entries =>
    match entries.lookup name with
    | some entry => directory (Entries.insert name (removeAt rest entry) entries)
    | none => directory entries

end FileTree

structure FileSystem where
  root : FileTree
  /-- The working directory, an absolute path. -/
  here : String

namespace FileSystem

/-- The longest path that is looked at, in bytes. -/
def longestPath : Nat := 4095

/-- The segments of a path from the root. -/
def segments (fs : FileSystem) (path : String) : List String :=
  (if path.startsWith "/" then path else fs.here ++ "/" ++ path).splitOn "/"

/-- What is at a path. The empty path leads nowhere. -/
def at? (fs : FileSystem) (path : String) : Except DiskError FileTree :=
  if path.toList.contains '\x00' then .error .nulInPath
  else if longestPath < path.utf8ByteSize then .error .nameTooLong
  else if path.isEmpty then .error .notFound
  else FileTree.follow [] fs.root (fs.segments path)

def disk (fs : FileSystem) : Disk := ⟨fun path => (fs.at? path).map FileTree.entry⟩

/-- Puts an entry at a path, making the directories on the way. -/
def put (fs : FileSystem) (path : String) (entry : FileTree) : FileSystem :=
  { fs with root := FileTree.putAt entry (FileTree.names (fs.segments path)) fs.root }

/-- Takes away what is at a path. -/
def remove (fs : FileSystem) (path : String) : FileSystem :=
  { fs with root := FileTree.removeAt (FileTree.names (fs.segments path)) fs.root }

end FileSystem
end Screens
