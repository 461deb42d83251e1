import Screens.Template.Node

/-! Decoding and encoding of nodes.

Decoding never fails: what is not understood becomes an unsupported node. Nodes
nested as deep as a cut-off or deeper are not decoded; of such a node only the
members that are neither arrays nor objects are kept. Encoding writes the members
in a fixed order and leaves out what is absent or empty; an unsupported node is
written as its raw value. -/
namespace Screens.Node

/-- The cut-off in use: deeper than any limit of the interpreter, so nodes below it
could never be drawn. -/
def standardCut : Nat := 512

/-- What stands for an object nested too deep. -/
def tooDeep (cut : Nat) (fields : List (String × Json)) : Node :=
  .unsupported (Tolerant.optional Json.text? "id" fields)
    (Tolerant.optional Json.text? "type" fields) [] (.tooDeep cut)
    (.obj (fields.filter fun m => m.2.isLeaf))

def commonOf (fields : List (String × Json)) : Common :=
  { id := Tolerant.optional Json.text? "id" fields
    style := Tolerant.optional Style.decode? "style" fields
    action := Tolerant.optional Action.decode? "action" fields
    conditions := Tolerant.sequence Condition.decode? "conditions" fields }

/-- The image's location; a remote one goes before a bundled one. -/
def imageSource? (fields : List (String × Json)) : Option ImageSource :=
  match Tolerant.optional Json.text? "imageUrl" fields with
  | some url => some (.remote url)
  | none => (Tolerant.optional Json.text? "imageName" fields).map .bundled

/-- A list's data source and its item template, which may be anything but `null`. -/
def listBinding? (fields : List (String × Json)) : Option (String × Json) :=
  match Tolerant.optional Json.text? "dataSource" fields, fields.lookup "itemTemplate" with
  | some source, some item => if item.isNull then none else some (source, item)
  | _, _ => none

/-- The node of an object, given how the nodes nested in it are decoded. -/
def ofFields (nested : Json → Node) (fields : List (String × Json)) : Node :=
  let common := commonOf fields
  let unsupported (typeName : Option String) (reason : Unsupported) : Node :=
    .unsupported common.id typeName common.conditions reason (.obj fields)
  let text := Tolerant.optional Json.text? "text" fields
  let label := Tolerant.optional Json.text? "label" fields
  match Tolerant.optional Json.text? "type" fields with
  | none => unsupported none .missingType
  | some typeName =>
    match ContainerKind.ofName? typeName with
    | some kind =>
      let children := (Tolerant.optional Json.items? "children" fields).getD []
      .container common kind (children.map nested)
    | none =>
      match typeName with
      | "text" => .text common ((text <|> label).getD "")
      | "button" => .button common ((label <|> text).getD "")
      | "image" => match imageSource? fields with
        | some source => .image common source
        | none => unsupported (some typeName) .imageWithoutSource
      | "list" => match listBinding? fields with
        | some (source, item) => .list common source (nested item)
        | none => unsupported (some typeName) .listWithoutBinding
      | "spacer" => .spacer common
      | "divider" => .divider common
      | _ => unsupported (some typeName) (.unknownType typeName)

/-- The node of a value with `levels` levels left above the cut-off. -/
def decodeAt (cut : Nat) : (levels : Nat) → Json → Node
  | 0, .obj fields => tooDeep cut fields
  | levels + 1, .obj fields => ofFields (decodeAt cut levels) fields
  | _, v => .unsupported none none [] .notAnObject v

/-- The node of a value, nodes nested `cut` levels deep or deeper cut off. -/
def decodeTo (cut : Nat) (v : Json) : Node := decodeAt cut cut v

def decode (v : Json) : Node := decodeTo standardCut v

/-! ### Encoding -/

/-- What is written before the texts of a node. -/
def opening (c : Common) (typeName : String) : List (String × Option Json) :=
  [("id", c.id.map .str), ("type", some (.str typeName))]

/-- What is written after them. -/
def closing (c : Common) : List (String × Option Json) :=
  [("style", c.style.map Style.encode), ("action", c.action.map Action.encode),
    ("conditions", Json.nonempty (c.conditions.map Condition.encode))]

def encodeSource : ImageSource → String × Option Json
  | .remote url => ("imageUrl", some (.str url))
  | .bundled name => ("imageName", some (.str name))

mutual

def encode : Node → Json
  | .unsupported _ _ _ _ raw => raw
  | .text c s => .ofMembers (opening c "text" ++ [("text", some (.str s))] ++ closing c)
  | .button c s => .ofMembers (opening c "button" ++ [("label", some (.str s))] ++ closing c)
  | .image c source =>
    .ofMembers (opening c "image" ++ closing c ++ [encodeSource source])
  | .container c kind children =>
    .ofMembers (opening c kind.name ++ closing c ++
      [("children", Json.nonempty (encodeAll children))])
  | .list c source item =>
    .ofMembers (opening c "list" ++ closing c ++
      [("dataSource", some (.str source)), ("itemTemplate", some item.encode)])
  | .spacer c => .ofMembers (opening c "spacer" ++ closing c)
  | .divider c => .ofMembers (opening c "divider" ++ closing c)

def encodeAll : List Node → List Json
  | [] => []
  | n :: rest => n.encode :: encodeAll rest

end

end Screens.Node
