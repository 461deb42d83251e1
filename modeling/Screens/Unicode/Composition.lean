import Screens.Unicode.Composites
import Screens.Unicode.Marks

/-! Composed texts (normalization form C).

A text is taken apart into characters and their marks, the marks are put in the order
of their classes, and then each character is put together with the marks that can be
reached past marks of lower class. Texts hold no characters that are only another
spelling of some text: a host's characters are mapped before. -/
namespace Screens.Unicode

/-! ### Syllables of Hangul

A syllable is a leading consonant with a vowel, and may have a trailing consonant. -/
namespace Hangul

def syllables : Nat := 0xAC00
def leads : Nat := 0x1100
def vowels : Nat := 0x1161
/-- Before the first trailing consonant, so that place 0 means none. -/
def trails : Nat := 0x11A7
def leadCount : Nat := 19
def vowelCount : Nat := 21
def trailCount : Nat := 28

def parts? (c : Char) : Option (Char × Char) :=
  let n := c.toNat - syllables
  if c.toNat < syllables ∨ leadCount * vowelCount * trailCount ≤ n then none
  else if n % trailCount = 0 then
    some (Char.ofNat (leads + n / trailCount / vowelCount),
      Char.ofNat (vowels + n / trailCount % vowelCount))
  else some (Char.ofNat (c.toNat - n % trailCount), Char.ofNat (trails + n % trailCount))

/-- A lead with a vowel, or a syllable that has no trailing consonant yet with one. -/
def whole? (first second : Char) : Option Char :=
  let lead := first.toNat - leads
  let vowel := second.toNat - vowels
  let trail := second.toNat - trails
  if leads ≤ first.toNat ∧ lead < leadCount ∧ vowels ≤ second.toNat ∧ vowel < vowelCount then
    some (Char.ofNat (syllables + (lead * vowelCount + vowel) * trailCount))
  else if (parts? first).isSome ∧ (first.toNat - syllables) % trailCount = 0 ∧
      trails < second.toNat ∧ trail < trailCount then
    some (Char.ofNat (first.toNat + trail))
  else none

end Hangul

/-! ### Taking apart -/

def parts? (c : Char) : Option (Char × Char) :=
  (Hangul.parts? c).or ((composites.find? (·.whole == c)).map fun p => (p.first, p.second))

/-- A first part may be a composite again, at most three deep. -/
def nesting : Nat := 3

def pieces : (depth : Nat) → Char → List Char
  | 0, c => [c]
  | depth + 1, c =>
    match parts? c with
    | some (first, second) => pieces depth first ++ [second]
    | none => [c]

/-! ### The order of marks -/

/-- Puts a character after a text of which the last character comes first; a mark goes
before the marks of greater class. -/
def place (c : Char) : List Char → List Char
  | [] => [c]
  | d :: before =>
    if combiningClass c ≠ 0 ∧ combiningClass c < combiningClass d then d :: place c before
    else c :: d :: before

def ordered (cs : List Char) : List Char := (cs.foldl (fun done c => place c done) []).reverse

/-! ### Putting together -/

def whole? (first second : Char) : Option Char :=
  (Hangul.whole? first second).or
    ((composites.find? fun p => p.first == first && p.second == second).map (·.whole))

/-- Puts together a character and what follows it; `kept` are the marks after it that
stay, the last one first. -/
def joinedFrom (base : Char) (kept : List Char) : List Char → List Char
  | [] => base :: kept.reverse
  | c :: rest =>
    let isReached := match kept with
      | [] => true
      | d :: _ => combiningClass d < combiningClass c
    match if isReached then whole? base c else none with
    | some whole => joinedFrom whole kept rest
    | none =>
      if combiningClass c = 0 then base :: kept.reverse ++ joinedFrom c [] rest
      else joinedFrom base (c :: kept) rest

def joined : List Char → List Char
  | [] => []
  | c :: rest => if combiningClass c = 0 then joinedFrom c [] rest else c :: joined rest

/-- The composed form of a text; one in ASCII is its own. -/
def composed (cs : List Char) : List Char :=
  if cs.all isAscii then cs else joined (ordered (cs.flatMap (pieces nesting)))

end Screens.Unicode
