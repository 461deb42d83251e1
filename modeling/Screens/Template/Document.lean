import Screens.Template.Decode

/-! Screen documents: a template with its id, version and title.

Only damage to the document itself fails it: a missing or repeated part, an id that
is no text. The version means nothing here; any other is as good as the first. -/
namespace Screens

structure Document where
  id : String
  version : UInt64
  title : String
  components : List Node
deriving DecidableEq

namespace Document

def ofComponents (id title : String) (components : List Node) : Document :=
  ⟨id, 1, title, components⟩

def parts : List Json.Part :=
  [⟨"id", .text, true⟩, ⟨"version", .any, false⟩, ⟨"title", .any, false⟩,
    ⟨"components", .any, false⟩]

def partNames : List String := parts.map (·.name)

/-- The document of a record's parts, nodes cut off at a depth. -/
def ofParts? (cut : Nat) (parts : List (String × Json)) : Option Document := do
  let id ← Tolerant.optional Json.text? "id" parts
  let components := (Tolerant.optional Json.items? "components" parts).getD []
  return {
    id
    version := (Tolerant.optional Json.count? "version" parts).getD 1
    title := Tolerant.scalar "title" parts
    components := components.map (Node.decodeTo cut) }

/-- The document a value stands for. -/
def decodeTo? (cut : Nat) (v : Json) : Option Document := (v.parts? partNames).bind (ofParts? cut)

def decode? (v : Json) : Option Document := decodeTo? Node.standardCut v

/-- The document of a text of any depth. -/
def read (bytes : Json.Bytes) : Except Json.Fault Document := do
  let parts ← Json.readRecord parts bytes.length bytes
  match ofParts? Node.standardCut parts with
  | some document => return document
  | none => throw .mismatched

def encode (d : Document) : Json :=
  .obj [("id", .str d.id), ("version", .ofCount d.version), ("title", .str d.title),
    ("components", .arr (Node.encodeAll d.components))]

/-- All nodes of the template, each before those below it. -/
def nodes (d : Document) : List Node := Node.walkAll d.components

/-! ### What will not be drawn -/

/-- An unsupported node, as it is reported. -/
structure Degraded where
  id : Option String
  typeName : Option String
  reason : Unsupported
deriving DecidableEq

def degraded? : Node → Option Degraded
  | .unsupported id typeName _ reason _ => some ⟨id, typeName, reason⟩
  | _ => none

/-- Every unsupported node, in document order. -/
def degradedNodes (d : Document) : List Degraded := d.nodes.filterMap degraded?

end Document
end Screens
