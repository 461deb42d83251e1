import Screens.Store.Basic

/-! Templates kept in a directory.

A template is one file: the screen id, for a variant a dot and its tag, and `.json`.
Ids and tags are runs of ASCII letters, digits, hyphens and underscores, so a key
names a file of the directory itself or none at all, and no two keys the same. -/
namespace Screens

structure TemplateDirectory where
  root : String
deriving DecidableEq

namespace TemplateDirectory

def isSafe (segment : String) : Bool :=
  !segment.isEmpty && segment.toList.all fun c => c.isAlphanum || c == '-' || c == '_'

/-- The name of the key's file, if the key can name one. -/
def fileName? (key : TemplateKey) : Option String :=
  match key.variant with
  | none => if isSafe key.screenId then some (key.screenId ++ ".json") else none
  | some variant =>
    if isSafe key.screenId && isSafe variant then some (key.screenId ++ "." ++ variant ++ ".json")
    else none

/-- The path of the key's file. -/
def path? (d : TemplateDirectory) (key : TemplateKey) : Option String :=
  (fileName? key).map (Disk.join d.root)

def storeName : String := "directory"

def unavailable (reason : String) : StoreError := .unavailable storeName reason

def ping (d : TemplateDirectory) (disk : Disk) : Except StoreError Unit :=
  match disk.entry d.root with
  | .ok (.directory _) => .ok ()
  | .ok (.file _) => .error (unavailable s!"{d.root} is not a directory")
  | .error e => .error (unavailable s!"{d.root}: {e.message}")

/-- A missing file is no template only if the directory is there. -/
def load (d : TemplateDirectory) (disk : Disk) (key : TemplateKey) :
    Except StoreError (Option Document) :=
  match d.path? key with
  | none => .ok none
  | some path =>
    match disk.read path with
    | .error .notFound => (d.ping disk).map fun _ => none
    | .error e => .error (.unreadable path e)
    | .ok bytes =>
      match Document.read bytes with
      | .ok document => .ok (some document)
      | .error fault => .error (.malformed key fault bytes)

/-- The id a file name holds, if it is one of a standard template. -/
def stem? (name : String) : Option String :=
  let cs := name.toList
  let stem := String.ofList (cs.take (cs.length - 5))
  if cs.drop (cs.length - 5) = ".json".toList ∧ isSafe stem then some stem else none

/-- The screens with a standard template, in order. -/
def screenIds (d : TemplateDirectory) (disk : Disk) : Except StoreError (List String) :=
  match disk.names d.root with
  | .ok names => .ok ((Entries.ofList ((names.filterMap stem?).map (·, ()))).map (·.1))
  | .error e => .error (unavailable s!"{d.root}: {e.message}")

def store (d : TemplateDirectory) (disk : Disk) : Store :=
  { name := storeName, load := d.load disk, screenIds := d.screenIds disk, ping := d.ping disk }

end TemplateDirectory
end Screens
