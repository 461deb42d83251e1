import Screens.Network.HostTable
import Screens.Network.Punycode
import Screens.Unicode.Composition
import Screens.Unicode.Direction
import Screens.Unicode.Joining

/-! Names of hosts (UTS #46).

A name is labels with dots between them. Its characters are mapped, to lower case for
one, and put together with their marks; then each label is written in ASCII. A label
may come in ASCII already: it has to be one that mapping leaves as it is. -/
namespace Screens.HostName
open Unicode (isAscii)

/-! ### Characters -/

/-- What becomes of a character; nothing if it is in no name. -/
def image? (c : Char) : Option (List Char) :=
  if isAscii c then some [c.toLower] else HostTable.image? c

/-- The text of a name, mapped and composed. -/
def mapped? (cs : List Char) : Option (List Char) :=
  (cs.mapM image?).map fun images => Unicode.composed images.flatten

/-- A text that mapping leaves as it is. -/
def isMapped (cs : List Char) : Bool :=
  cs.all (fun c => image? c == some [c]) && Unicode.composed cs == cs

/-! ### Joiners

U+200D may stand after a virama, and so may U+200C, which may also stand between letters
that would join each other. -/

/-- The joiner may stand between these characters; `before` has the last one first. -/
def fits (before : List Char) (joiner : Char) (rest : List Char) : Bool :=
  (before.head?.map Unicode.isVirama).getD false ||
    (joiner == '\u200c' && Unicode.meets Unicode.joiningNext before &&
      Unicode.meets Unicode.joiningPrevious rest)

def joinersFit (before : List Char) : List Char → Bool
  | [] => true
  | c :: rest =>
    ((c != '\u200c' && c != '\u200d') || fits before c rest) && joinersFit (c :: before) rest

/-! ### Directions -/

def isRightToLeft (c : Char) : Bool :=
  [Unicode.Direction.right, .arabicNumber].contains (.of c)

/-- The directions in a label do not get mixed up (RFC 5893): it begins with a letter, holds
no letters of the other direction, ends in a letter or digit, marks apart, and has digits
of one kind. -/
def keepsDirection (label : List Char) : Bool :=
  match label.map Unicode.Direction.of with
  | [] => true
  | first :: others =>
    let rest := (others.reverse.dropWhile (· == .mark)).reverse
    let endsIn (ends : List Unicode.Direction) : Bool :=
      (rest.getLast?.map ends.contains).getD true
    match first with
    | .left => !rest.contains .right && !rest.contains .arabicNumber && endsIn [.left, .number]
    | .right => !rest.contains .left && endsIn [.right, .number, .arabicNumber] &&
        !(rest.contains .number && rest.contains .arabicNumber)
    | _ => false

/-! ### Labels -/

structure Label where
  /-- As people read it. -/
  shown : List Char
  /-- In ASCII. -/
  written : List Char
deriving DecidableEq

/-- The longest label that is not ASCII, in characters. -/
def longestShown : Nat := 1000

/-- The longest label in ASCII that stands for one that is not, after its marker. -/
def longestWritten : Nat := 2000

/-- What people read is a label. -/
def isLabel (shown : List Char) : Bool :=
  shown.all isAscii ||
    (shown.length ≤ longestShown && !(shown.head?.map Unicode.isMark).getD false &&
      joinersFit [] shown)

/-- A label after mapping. -/
def label? (cs : List Char) : Option Label :=
  if Punycode.marker.isPrefixOf cs then do
    let code := cs.drop Punycode.marker.length
    let shown ← Punycode.decoded? code
    if code.length ≤ longestWritten ∧ !shown.all isAscii ∧ isMapped shown ∧ isLabel shown then
      some ⟨shown, cs⟩
    else none
  else if isLabel cs then some ⟨cs, Punycode.encoded cs⟩
  else none

/-- The parts of a text between its dots. -/
def parts (cs : List Char) : List (List Char) :=
  ((String.ofList cs).splitOn ".").map String.toList

/-- The name of a host in ASCII. Where one label is written from right to left, all have
to keep their direction. -/
def written? (cs : List Char) : Option String := do
  let labels ← (parts (← mapped? cs)).mapM label?
  if labels.any (·.shown.any isRightToLeft) ∧ !labels.all (keepsDirection ·.shown) then none
  else some (".".intercalate (labels.map fun l => String.ofList l.written))

end Screens.HostName
