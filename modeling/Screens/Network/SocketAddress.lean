import Screens.Text.Scan

/-! Addresses a service can listen on: a host as a number, and a port.

An IPv4 host is four decimal numbers up to 255 without leading zeros. An IPv6 host
stands in brackets: eight groups of up to four hexadecimal digits, where `::` may
stand for one or more groups of zero and an IPv4 host for the last two; after it a
scope may follow. Of the ways to write an IPv6 host the shortest is printed. -/
namespace Screens

/-! ### IPv4 hosts -/

structure Ipv4 where
  a : UInt8
  b : UInt8
  c : UInt8
  d : UInt8
deriving DecidableEq

namespace Ipv4

def octet : Scan UInt8 := do
  let digits ← Scan.run Char.isDigit
  let value := digitsValue digits
  if digits.isEmpty ∨ 3 < digits.length ∨ 256 ≤ value then failure
  if digits.head? = some '0' ∧ 1 < digits.length then failure
  return UInt8.ofNat value

def scan : Scan Ipv4 := do
  let a ← octet
  Scan.mark '.'
  let b ← octet
  Scan.mark '.'
  let c ← octet
  Scan.mark '.'
  let d ← octet
  return ⟨a, b, c, d⟩

/-- The two groups the host fills in an IPv6 host. -/
def groups (host : Ipv4) : List UInt16 :=
  [host.a.toUInt16 * 256 + host.b.toUInt16, host.c.toUInt16 * 256 + host.d.toUInt16]

def text (host : Ipv4) : String := s!"{host.a}.{host.b}.{host.c}.{host.d}"

end Ipv4

/-! ### IPv6 hosts -/

structure Ipv6 where
  groups : Vector UInt16 8
deriving DecidableEq

namespace Ipv6

def group : Scan UInt16 := do
  let digits ← Scan.run fun c => (digitValue? 16 c).isSome
  if digits.isEmpty ∨ 4 < digits.length then failure
  return UInt16.ofNat (valueIn 16 digits)

/-- What follows a colon, or stands at the start. -/
def separated {α : Type} (atStart : Bool) (scan : Scan α) : Scan α := do
  if !atStart then Scan.mark ':'
  scan

/-- Up to `room` groups with colons between them, and whether the last two were
written as an IPv4 host. -/
def someGroups : (room : Nat) → (atStart : Bool) → Scan (List UInt16 × Bool)
  | 0, _ => return ([], false)
  | room + 1, atStart => do
    let host ← if room = 0 then pure none else Scan.optional (separated atStart Ipv4.scan)
    match host with
    | some host => return (host.groups, true)
    | none =>
      match ← Scan.optional (separated atStart group) with
      | none => return ([], false)
      | some g =>
        let (rest, embedded) ← someGroups room false
        return (g :: rest, embedded)

def ofGroups? (groups : List UInt16) : Option Ipv6 :=
  if h : groups.length = 8 then some ⟨⟨groups.toArray, by simpa using h⟩⟩ else none

/-- The groups before and after the zeros left out. -/
def ofEnds? (front back : List UInt16) : Option Ipv6 :=
  ofGroups? (front ++ List.replicate (8 - front.length - back.length) 0 ++ back)

def scan : Scan Ipv6 := do
  let (front, embedded) ← someGroups 8 true
  if front.length = 8 then ofGroups? front
  else if embedded then failure
  else
    Scan.marks [':', ':']
    let (back, _) ← someGroups (8 - (front.length + 1)) true
    ofEnds? front back

/-- The place and length of the first longest run of zeros. -/
def longestZeros (groups : List UInt16) : Nat × Nat :=
  (List.range groups.length).foldl
    (fun best i =>
      let n := ((groups.drop i).takeWhile (· == 0)).length
      if best.2 < n then (i, n) else best) (0, 0)

def groupTexts (groups : List UInt16) : String :=
  ":".intercalate (groups.map fun g => String.ofList (Nat.toDigits 16 g.toNat))

/-- The groups, the first longest run of two or more zeros left out. -/
def shortest (host : Ipv6) : String :=
  let groups := host.groups.toList
  let (start, n) := longestZeros groups
  if 1 < n then groupTexts (groups.take start) ++ "::" ++ groupTexts (groups.drop (start + n))
  else groupTexts groups

/-- The shortest form, but an IPv4 host in disguise shows as one. -/
def text (host : Ipv6) : String :=
  match host.groups.toList with
  | [0, 0, 0, 0, 0, 0xffff, g, h] =>
    s!"::ffff:{g.toNat / 256}.{g.toNat % 256}.{h.toNat / 256}.{h.toNat % 256}"
  | _ => host.shortest

end Ipv6

/-! ### Hosts with a port -/

inductive SocketAddress where
  | v4 (host : Ipv4) (port : UInt16)
  | v6 (host : Ipv6) (scope : UInt32) (port : UInt16)
deriving DecidableEq

namespace SocketAddress

/-- What is said of a text that is no address. -/
def errorText : String := "invalid socket address syntax"

/-- A decimal number below a limit, after any number of zeros. -/
def decimalBelow (limit : Nat) : Scan Nat := do
  let digits ← Scan.run Char.isDigit
  if digits.isEmpty ∨ limit ≤ digitsValue digits then failure
  return digitsValue digits

def scanPort : Scan UInt16 := do
  Scan.mark ':'
  return UInt16.ofNat (← decimalBelow 65536)

def scanScope : Scan UInt32 := do
  Scan.mark '%'
  return UInt32.ofNat (← decimalBelow 4294967296)

def scan4 : Scan SocketAddress := do
  let host ← Ipv4.scan
  return .v4 host (← scanPort)

def scan6 : Scan SocketAddress := do
  Scan.mark '['
  let host ← Ipv6.scan
  let scope := (← Scan.optional scanScope).getD 0
  Scan.mark ']'
  return .v6 host scope (← scanPort)

def ofString? (text : String) : Option SocketAddress :=
  (Scan.whole scan4 text.toList).or (Scan.whole scan6 text.toList)

def port : SocketAddress → UInt16
  | v4 _ port | v6 _ _ port => port

/-- The host without the port: an IPv6 host in brackets, a scope other than 0 after it. -/
def hostText : SocketAddress → String
  | v4 host _ => host.text
  | v6 host scope _ => if scope = 0 then s!"[{host.text}]" else s!"[{host.text}%{scope}]"

def render (address : SocketAddress) : String := s!"{address.hostText}:{address.port}"

end SocketAddress
end Screens
