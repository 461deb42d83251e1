import Screens.Disk.Basic
import Screens.Template.Document
import Screens.Wording

/-! Template stores.

A store answers a key with a document, with nothing if it has no template there, or
with a fault. It can list the screens it knows, and tell whether it can be reached. -/
namespace Screens

/-- What a template is stored under: a screen and, for a variant, its tag. -/
structure TemplateKey where
  screenId : String
  variant : Option String
deriving DecidableEq

namespace TemplateKey

def standard (screenId : String) : TemplateKey := ⟨screenId, none⟩

def ofVariant (screenId variant : String) : TemplateKey := ⟨screenId, some variant⟩

/-- The screen and the variant, a dot between them. -/
def display (key : TemplateKey) : String :=
  match key.variant with
  | some variant => s!"{key.screenId}.{variant}"
  | none => key.screenId

end TemplateKey

inductive StoreError where
  | unavailable (store reason : String)
  /-- There is a template, but its text is no screen document. -/
  | malformed (key : TemplateKey) (fault : Json.Fault) (text : Json.Bytes)
  | unreadable (path : String) (error : DiskError)
deriving DecidableEq

def StoreError.message [Wording] : StoreError → String
  | unavailable store reason => s!"Template store '{store}' unavailable: {reason}"
  | malformed key fault text =>
    s!"Template '{key.display}' is malformed: {Wording.document fault text}"
  | unreadable path error => s!"Failed to read template '{path}': {error.message}"

structure Store where
  name : String
  load : TemplateKey → Except StoreError (Option Document)
  screenIds : Except StoreError (List String)
  ping : Except StoreError Unit

namespace Store

/-- A store that has no template and can list none. -/
def bare : Store :=
  { name := "bare", load := fun _ => .ok none, screenIds := .ok [], ping := .ok () }

/-- The store while it cannot be reached, for the reason given. -/
def failing (store : Store) (reason : String) : Store :=
  let error := StoreError.unavailable store.name reason
  { name := store.name
    load := fun _ => .error error
    screenIds := .error error
    ping := .error error }

end Store

/-! ### Templates held in memory -/

structure MemoryTemplates where
  templates : List (TemplateKey × Document)

namespace MemoryTemplates

def empty : MemoryTemplates := ⟨[]⟩

/-- Puts a template under the key, in place of the one there. -/
def put (m : MemoryTemplates) (key : TemplateKey) (d : Document) : MemoryTemplates :=
  ⟨(key, d) :: m.templates.filter (·.1 != key)⟩

/-- The standard template of the screen the document names. -/
def insert (m : MemoryTemplates) (d : Document) : MemoryTemplates := m.put (.standard d.id) d

def insertVariant (m : MemoryTemplates) (variant : String) (d : Document) : MemoryTemplates :=
  m.put (.ofVariant d.id variant) d

def size (m : MemoryTemplates) : Nat := m.templates.length

/-- Every screen with a template of any variant, in order. -/
def screenIds (m : MemoryTemplates) : List String :=
  (Entries.ofList (m.templates.map fun t => (t.1.screenId, ()))).map (·.1)

def store (m : MemoryTemplates) : Store :=
  { name := "memory"
    load := fun key => .ok (m.templates.lookup key)
    screenIds := .ok m.screenIds
    ping := .ok () }

end MemoryTemplates
end Screens
