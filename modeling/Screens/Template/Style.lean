import Screens.Number.Numeral
import Screens.Template.Tolerant

/-! Style: hints for drawing, carried through to the rendered tree untouched.

The numbers of a style that is read are finite. A style that is put together may have any in it;
one that is not finite has no wire form and is written as `null`. Two styles are the same if their
parts are, numbers compared as numbers are (`Numeral.same`). -/
namespace Screens

structure Font where
  size : Option Numeral
  weight : Option String
deriving DecidableEq

/-- Edge insets. Leading and trailing follow the direction of the layout. -/
structure Padding where
  top : Option Numeral
  bottom : Option Numeral
  leading : Option Numeral
  trailing : Option Numeral
deriving DecidableEq

structure Style where
  font : Option Font
  color : Option String
  backgroundColor : Option String
  padding : Option Padding
  cornerRadius : Option Numeral
  width : Option Numeral
  height : Option Numeral
  spacing : Option Numeral
deriving DecidableEq

/-! ### Wire form -/

namespace Numeral

def ofJson? (v : Json) : Option Numeral := v.double?.map .finite

def encode : Numeral → Json
  | finite x => .ofDouble x
  | infinite _ | notANumber => .null

end Numeral

def Font.decode? (v : Json) : Option Font :=
  (v.parts? ["size", "weight"]).map fun parts =>
    { size := Tolerant.optional Numeral.ofJson? "size" parts
      weight := Tolerant.optional Json.text? "weight" parts }

def Font.encode (f : Font) : Json :=
  .ofMembers [("size", f.size.map Numeral.encode), ("weight", f.weight.map .str)]

def Padding.decode? (v : Json) : Option Padding :=
  (v.parts? ["top", "bottom", "leading", "trailing"]).map fun parts =>
    { top := Tolerant.optional Numeral.ofJson? "top" parts
      bottom := Tolerant.optional Numeral.ofJson? "bottom" parts
      leading := Tolerant.optional Numeral.ofJson? "leading" parts
      trailing := Tolerant.optional Numeral.ofJson? "trailing" parts }

def Padding.encode (p : Padding) : Json :=
  .ofMembers [("top", p.top.map Numeral.encode), ("bottom", p.bottom.map Numeral.encode),
    ("leading", p.leading.map Numeral.encode), ("trailing", p.trailing.map Numeral.encode)]

namespace Style

def partNames : List String :=
  ["font", "color", "backgroundColor", "padding", "cornerRadius", "width", "height", "spacing"]

def decode? (v : Json) : Option Style :=
  (v.parts? partNames).map fun parts =>
    { font := Tolerant.optional Font.decode? "font" parts
      color := Tolerant.optional Json.text? "color" parts
      backgroundColor := Tolerant.optional Json.text? "backgroundColor" parts
      padding := Tolerant.optional Padding.decode? "padding" parts
      cornerRadius := Tolerant.optional Numeral.ofJson? "cornerRadius" parts
      width := Tolerant.optional Numeral.ofJson? "width" parts
      height := Tolerant.optional Numeral.ofJson? "height" parts
      spacing := Tolerant.optional Numeral.ofJson? "spacing" parts }

def encode (s : Style) : Json :=
  .ofMembers [("font", s.font.map Font.encode), ("color", s.color.map .str),
    ("backgroundColor", s.backgroundColor.map .str), ("padding", s.padding.map Padding.encode),
    ("cornerRadius", s.cornerRadius.map Numeral.encode), ("width", s.width.map Numeral.encode),
    ("height", s.height.map Numeral.encode), ("spacing", s.spacing.map Numeral.encode)]

end Style

/-! ### Comparison -/

/-- Neither is there, or both are and they are the same. -/
def sameOption {α : Type} (same : α → α → Bool) : Option α → Option α → Bool
  | none, none => true
  | some a, some b => same a b
  | _, _ => false

def Font.same (f g : Font) : Bool := sameOption Numeral.same f.size g.size && f.weight == g.weight

def Padding.same (p q : Padding) : Bool :=
  sameOption Numeral.same p.top q.top && sameOption Numeral.same p.bottom q.bottom &&
    sameOption Numeral.same p.leading q.leading && sameOption Numeral.same p.trailing q.trailing

def Style.same (s t : Style) : Bool :=
  sameOption Font.same s.font t.font && s.color == t.color &&
    s.backgroundColor == t.backgroundColor && sameOption Padding.same s.padding t.padding &&
    sameOption Numeral.same s.cornerRadius t.cornerRadius &&
    sameOption Numeral.same s.width t.width && sameOption Numeral.same s.height t.height &&
    sameOption Numeral.same s.spacing t.spacing

end Screens
