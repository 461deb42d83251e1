import Screens.Template.Action
import Screens.Template.Condition
import Screens.Template.Style

/-! Template nodes: the tree a screen is made of.

A node that cannot be understood is kept as `unsupported`, with the reason and its
raw value, so that it can be reported, and encoded again as it was. -/
namespace Screens

/-- What every supported node may carry. -/
structure Common where
  id : Option String
  style : Option Style
  action : Option Action
  conditions : List Condition
deriving DecidableEq

def Common.ofId (id : String) : Common := ⟨some id, none, none, []⟩

inductive ContainerKind where
  | vstack
  | hstack
  | zstack
  | card
deriving DecidableEq

namespace ContainerKind

def name : ContainerKind → String
  | vstack => "vstack"
  | hstack => "hstack"
  | zstack => "zstack"
  | card => "card"

def ofName? : String → Option ContainerKind
  | "vstack" => some vstack
  | "hstack" => some hstack
  | "zstack" => some zstack
  | "card" => some card
  | _ => none

end ContainerKind

/-- Where an image comes from. Both kinds of location may hold tokens. -/
inductive ImageSource where
  | remote (url : String)
  | bundled (name : String)
deriving DecidableEq

/-- Why a node is not supported. -/
inductive Unsupported where
  | notAnObject
  | tooDeep (limit : Nat)
  | missingType
  | unknownType (name : String)
  | imageWithoutSource
  | listWithoutBinding
deriving DecidableEq

def Unsupported.message : Unsupported → String
  | notAnObject => "node is not a JSON object"
  | tooDeep limit => s!"nested deeper than {limit} levels"
  | missingType => "missing required field `type`"
  | unknownType name => s!"unsupported component type `{name}`"
  | imageWithoutSource => "image without `imageUrl` or `imageName`"
  | listWithoutBinding => "list without `dataSource` and `itemTemplate`"

inductive Node where
  | text (common : Common) (text : String)
  | button (common : Common) (label : String)
  | image (common : Common) (source : ImageSource)
  | container (common : Common) (kind : ContainerKind) (children : List Node)
  /-- The item template is repeated once per element of the data source. -/
  | list (common : Common) (dataSource : String) (item : Node)
  | spacer (common : Common)
  | divider (common : Common)
  /-- The conditions still decide whether it is seen. -/
  | unsupported (id typeName : Option String) (conditions : List Condition)
      (reason : Unsupported) (raw : Json)

namespace Node

instance : Inhabited Node := ⟨spacer ⟨none, none, none, []⟩⟩

/-- What the node carries, unless it is unsupported. -/
def common? : Node → Option Common
  | text c _ | button c _ | image c _ | container c _ _ | list c _ _ | spacer c
  | divider c => some c
  | unsupported .. => none

def id? : Node → Option String
  | unsupported id .. => id
  | text c _ | button c _ | image c _ | container c _ _ | list c _ _ | spacer c | divider c => c.id

/-- The `type` it is written with. -/
def typeName? : Node → Option String
  | text .. => some "text"
  | button .. => some "button"
  | image .. => some "image"
  | container _ kind _ => some kind.name
  | list .. => some "list"
  | spacer _ => some "spacer"
  | divider _ => some "divider"
  | unsupported _ typeName .. => typeName

def conditions : Node → List Condition
  | unsupported _ _ conditions .. => conditions
  | text c _ | button c _ | image c _ | container c _ _ | list c _ _ | spacer c | divider c =>
    c.conditions

def ofText (id text : String) : Node := .text (.ofId id) text

def ofContainer (kind : ContainerKind) (id : String) (children : List Node) : Node :=
  .container (.ofId id) kind children

def ofList (id dataSource : String) (item : Node) : Node := .list (.ofId id) dataSource item

/-! ### Walking -/

mutual

/-- The node and all nodes below it, each before its own: children in order, the
template of a list after the list. -/
def walk : Node → List Node
  | container c kind children => container c kind children :: walkAll children
  | list c source item => list c source item :: item.walk
  | n => [n]

def walkAll : List Node → List Node
  | [] => []
  | n :: rest => n.walk ++ walkAll rest

end

/-! ### Equality -/

mutual

def decEq : (a b : Node) → Decidable (a = b)
  | text c s, text d t =>
    if h : c = d ∧ s = t then isTrue (by simp [h]) else isFalse (by simpa using h)
  | button c s, button d t =>
    if h : c = d ∧ s = t then isTrue (by simp [h]) else isFalse (by simpa using h)
  | image c s, image d t =>
    if h : c = d ∧ s = t then isTrue (by simp [h]) else isFalse (by simpa using h)
  | container c k xs, container d l ys =>
    if h : c = d ∧ k = l then match decEqAll xs ys with
      | isTrue hs => isTrue (by simp [h, hs])
      | isFalse hs => isFalse (by simp [hs])
    else isFalse (by simp only [container.injEq]; exact fun e => h ⟨e.1, e.2.1⟩)
  | list c s m, list d t n =>
    if h : c = d ∧ s = t then match decEq m n with
      | isTrue hs => isTrue (by simp [h, hs])
      | isFalse hs => isFalse (by simp [hs])
    else isFalse (by simp only [list.injEq]; exact fun e => h ⟨e.1, e.2.1⟩)
  | spacer c, spacer d => if h : c = d then isTrue (by simp [h]) else isFalse (by simpa using h)
  | divider c, divider d => if h : c = d then isTrue (by simp [h]) else isFalse (by simpa using h)
  | unsupported i t c r v, unsupported j u d s w =>
    if h : i = j ∧ t = u ∧ c = d ∧ r = s ∧ v = w then isTrue (by simp [h])
    else isFalse (by simpa using h)
  | text .., button .. | text .., image .. | text .., container .. | text .., list ..
  | text .., spacer _ | text .., divider _ | text .., unsupported ..
  | button .., text .. | button .., image .. | button .., container .. | button .., list ..
  | button .., spacer _ | button .., divider _ | button .., unsupported ..
  | image .., text .. | image .., button .. | image .., container .. | image .., list ..
  | image .., spacer _ | image .., divider _ | image .., unsupported ..
  | container .., text .. | container .., button .. | container .., image .. | container .., list ..
  | container .., spacer _ | container .., divider _ | container .., unsupported ..
  | list .., text .. | list .., button .. | list .., image .. | list .., container ..
  | list .., spacer _ | list .., divider _ | list .., unsupported ..
  | spacer _, text .. | spacer _, button .. | spacer _, image .. | spacer _, container ..
  | spacer _, list .. | spacer _, divider _ | spacer _, unsupported ..
  | divider _, text .. | divider _, button .. | divider _, image .. | divider _, container ..
  | divider _, list .. | divider _, spacer _ | divider _, unsupported ..
  | unsupported .., text .. | unsupported .., button .. | unsupported .., image ..
  | unsupported .., container .. | unsupported .., list .. | unsupported .., spacer _
  | unsupported .., divider _ => isFalse (by simp)

def decEqAll : (a b : List Node) → Decidable (a = b)
  | [], [] => isTrue rfl
  | [], _ :: _ | _ :: _, [] => isFalse (by simp)
  | m :: ms, n :: ns => match decEq m n, decEqAll ms ns with
    | isTrue h, isTrue hs => isTrue (by simp [h, hs])
    | isFalse h, _ => isFalse (by simp [h])
    | _, isFalse h => isFalse (by simp [h])

end

instance : DecidableEq Node := decEq

end Node
end Screens
