import Screens.Network.HostName
import Screens.Network.Percent
import Screens.Network.SocketAddress
import Screens.Number.Power

/-! URLs on the web, read as browsers do (WHATWG).

Only absolute URLs of the schemes `http` and `https` are read. There the slashes after the
scheme may be any number and of either kind, a host that ends in a number is an IPv4
host, and dot segments of the path are resolved. The written form has the scheme in
lower case, no user and no standard port, and escapes what does not stand for itself. -/
namespace Screens

structure WebUrl where
  secure : Bool
  host : String
  /-- A port other than the standard one. -/
  port : Option UInt16
  path : List String
  query : Option String
  fragment : Option String
deriving DecidableEq

namespace WebUrl

/-! ### Escapes -/

/-- A byte that never stands for itself. -/
def isControl (b : UInt8) : Bool := b < 32 || 126 < b

def isOneOf (marks : String) (b : UInt8) : Bool := marks.toList.any fun c => c.toNat == b.toNat

def escapedByte (b : UInt8) : List Char :=
  let digit (n : Nat) : Char := (Nat.digitChar n).toUpper
  ['%', digit (b.toNat / 16), digit (b.toNat % 16)]

/-- The text with control characters, what is not ASCII and the marks given escaped. -/
def escaped (marks : String) (cs : List Char) : String :=
  String.ofList ((String.ofList cs).toUTF8.toList.flatMap fun b =>
    if isControl b || isOneOf marks b then escapedByte b else [Char.ofNat b.toNat])

def fragmentMarks : String := " \"<>`"

def pathMarks : String := fragmentMarks ++ "#?\x7b\x7d"

def queryMarks : String := " \"#<>'"

/-! ### Hosts -/

/-- Characters no host has. -/
def isForbidden (c : Char) : Bool :=
  c.toNat ≤ 32 || c.toNat == 127 || "#/:<>?@[\\]^|%".contains c

/-- A number of an IPv4 host: hexadecimal after `0x`, octal after `0`, else decimal. -/
def hostNumber? (label : List Char) : Option Nat :=
  let inBase (base : Nat) (cs : List Char) : Option Nat :=
    if cs.all fun c => (digitValue? base c).isSome then some (valueIn base cs) else none
  match label with
  | [] => none
  | '0' :: 'x' :: rest | '0' :: 'X' :: rest => inBase 16 rest
  | '0' :: c :: rest => inBase 8 (c :: rest)
  | cs => inBase 10 cs

/-- The labels of a host, less an empty one at the end. -/
def labels (host : String) : List String :=
  let all := host.splitOn "."
  if all.getLast? = some "" ∧ 1 < all.length then all.dropLast else all

def endsInNumber (host : String) : Bool :=
  match (labels host).getLast? with
  | some last =>
    (!last.isEmpty && last.toList.all Char.isDigit) ||
      ((last.startsWith "0x" || last.startsWith "0X") && (hostNumber? last.toList).isSome)
  | none => false

/-- Up to four numbers, the last of which fills the bytes that are left. -/
def ipv4? (host : String) : Option Ipv4 := do
  let numbers ← (labels host).mapM fun l => hostNumber? l.toList
  let front := numbers.dropLast
  let last ← numbers.getLast?
  if 4 < numbers.length ∨ front.any (255 < ·) ∨ power 256 (5 - numbers.length) ≤ last then none
  else
    let n := (front.zipIdx.foldl (fun n (v, i) => n + v * power 256 (3 - i)) 0) + last
    let byte (place : Nat) : UInt8 := UInt8.ofNat (n / power 256 place)
    some ⟨byte 3, byte 2, byte 1, byte 0⟩

/-- A host as it is written, in ASCII and lower case. -/
def host? (cs : List Char) : Option String := do
  match cs with
  | '[' :: rest =>
    if rest.getLast? ≠ some ']' then none
    else (Scan.whole Ipv6.scan rest.dropLast).map fun host => s!"[{host.shortest}]"
  | _ =>
    let text ← Utf8.text? (Percent.decoded (String.ofList cs).toUTF8.toList)
    let name ← HostName.written? text.toList
    if name.isEmpty ∨ name.toList.any isForbidden then none
    else if endsInNumber name then (ipv4? name).map Ipv4.text
    else some name

/-- The port after a colon; the standard one is left out. -/
def port? (standard : Nat) (cs : List Char) : Option (Option UInt16) :=
  if !cs.all Char.isDigit ∨ 65536 ≤ digitsValue cs then none
  else if cs.isEmpty ∨ digitsValue cs = standard then some none
  else some (some (UInt16.ofNat (digitsValue cs)))

/-- A host and what follows it from a colon on; one within brackets belongs to the host. -/
def hostAndPort (bracketed : Bool) : List Char → List Char × List Char
  | [] => ([], [])
  | c :: rest =>
    if c = ':' ∧ !bracketed then ([], c :: rest)
    else
      let (host, port) := hostAndPort (c = '[' ∨ (bracketed ∧ c ≠ ']')) rest
      (c :: host, port)

/-- What stands after the last `@`. -/
def afterUser (cs : List Char) : List Char := (cs.reverse.takeWhile (· != '@')).reverse

/-! ### Paths -/

def isHere (segment : String) : Bool := segment == "." || segment.toLower == "%2e"

def isUp (segment : String) : Bool :=
  ["..", ".%2e", "%2e.", "%2e%2e"].contains segment.toLower

/-- The segments with those resolved that mean the directory itself or the one above;
at the end these leave an empty segment. -/
def resolved : (segments : List String) → (above : List String) → List String
  | [], above => above.reverse
  | segment :: rest, above =>
    let above' := if isUp segment then above.drop 1 else if isHere segment then above
      else segment :: above
    if rest.isEmpty ∧ (isUp segment ∨ isHere segment) then ("" :: above').reverse
    else resolved rest above'

def isSlash (c : Char) : Bool := c == '/' || c == '\\'

/-- The segments of a path after its first slash. -/
def segments (cs : List Char) : List String :=
  let slashes := String.ofList (cs.map fun c => if isSlash c then '/' else c)
  resolved ((slashes.splitOn "/").map fun s => escaped pathMarks s.toList) []

/-! ### The whole -/

/-- The text as it counts: line breaks and tabs are passed over, blanks around it too. -/
def counted (s : String) : List Char :=
  let trim (cs : List Char) : List Char := cs.dropWhile fun c => c.toNat ≤ 32
  ((trim (trim s.toList).reverse).reverse).filter fun c => c != '\t' && c != '\n' && c != '\r'

/-- Whether the scheme is the secure one, for the two schemes of the web. -/
def scheme? (cs : List Char) : Option Bool :=
  let name := String.ofList (cs.map Char.toLower)
  if name = "http" then some false else if name = "https" then some true else none

def ofString? (s : String) : Option WebUrl := do
  let cs := counted s
  let name := cs.takeWhile (· != ':')
  if name.length = cs.length then none
  let secure ← scheme? name
  let rest := (cs.drop (name.length + 1)).dropWhile isSlash
  let isEnd (c : Char) : Bool := isSlash c || c == '?' || c == '#'
  let authority := rest.takeWhile fun c => !isEnd c
  let rest := rest.drop authority.length
  let (host, port) := hostAndPort false (afterUser authority)
  let host ← host? host
  let port ← match port with
    | [] => some none
    | ':' :: digits => port? (if secure then 443 else 80) digits
    | _ => none
  let path := rest.takeWhile fun c => c != '?' && c != '#'
  let rest := rest.drop path.length
  let (query, rest) := match rest with
    | '?' :: more =>
      let query := more.takeWhile (· != '#')
      (some (escaped queryMarks query), more.drop query.length)
    | rest => (none, rest)
  let fragment := match rest with
    | '#' :: more => some (escaped fragmentMarks more)
    | _ => none
  return { secure, host, port, path := segments (path.drop 1), query, fragment }

/-- A part after its mark, if it is there. -/
def marked (mark : String) : Option String → String
  | some s => mark ++ s
  | none => ""

def render (url : WebUrl) : String :=
  (if url.secure then "https://" else "http://") ++ url.host ++
    marked ":" (url.port.map toString) ++ "/" ++ "/".intercalate url.path ++
    marked "?" url.query ++ marked "#" url.fragment

/-! ### Requests -/

/-- The longest URL a request can be made for, in bytes. -/
def longestRequest : Nat := 65534

/-- Characters a host may have but a request cannot name. -/
def isUnnamed (c : Char) : Bool := "\"`\x7b\x7d".contains c

/-- A request can be made for the URL. -/
def isRequestable (url : WebUrl) : Bool :=
  !url.host.toList.any isUnnamed && url.render.utf8ByteSize ≤ longestRequest

end WebUrl
end Screens
