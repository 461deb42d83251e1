import Screens.Keyed
import Screens.Number.Numeral

/-! TOML values, and how a table grows.

A table is put together from the lines of a text, and how it came about decides what
may be added to it later: a header opens a table once, a dotted key adds to tables
that only dotted keys have made, and what is written as a value stays as it is. -/
namespace Screens.Toml

/-- How a table came about. -/
inductive Origin where
  /-- On the way to the table of a header. -/
  | implied
  /-- On the way to the end of a dotted key. -/
  | dotted
  /-- By a header of its own. -/
  | headed
  /-- Written as a value. -/
  | inline
deriving DecidableEq

inductive Value where
  | text (s : String)
  | integer (n : Int)
  | float (x : Numeral)
  | flag (b : Bool)
  /-- A date, a time or both, as written. -/
  | moment (s : String)
  | list (items : List Value)
  /-- The tables of one repeated header, the last one open. -/
  | tables (earlier : List (List (String × Value))) (last : List (String × Value))
  | table (origin : Origin) (entries : List (String × Value))

abbrev Members := List (String × Value)

namespace Members

/-- Goes down the tables of a path and changes the one at its end. Missing tables are
made with the origin given; a dotted key enters no table that has a header, and no
path enters one written as a value. -/
def change (made : Origin) (f : Origin → Members → Option Members) :
    (path : List String) → Origin → Members → Option Members
  | [], origin, here => f origin here
  | key :: path, _, here =>
    match here.lookup key with
    | none => (change made f path made []).map fun t => Entries.insert key (.table made t) here
    | some (.table origin t) =>
      if origin = .inline ∨ (made = .dotted ∧ origin = .headed) then none
      else (change made f path origin t).map fun t => Entries.insert key (.table origin t) here
    | some (.tables earlier t) =>
      (change made f path .headed t).map fun t => Entries.insert key (.tables earlier t) here
    | some _ => none

/-- Gives a key its value, once. The last table of a dotted key is one that dotted keys made. -/
def put (path : List String) (key : String) (v : Value) : Members → Option Members :=
  change .dotted (fun origin here =>
    if (path ≠ [] ∧ origin ≠ .dotted) ∨ (here.lookup key).isSome then none
    else some (Entries.insert key v here)) path .headed

/-- Opens the table of a header: a new one, or one that so far was only implied. -/
def openTable (path : List String) (key : String) : Members → Option Members :=
  change .implied (fun _ here =>
    match here.lookup key with
    | none => some (Entries.insert key (.table .headed []) here)
    | some (.table .implied t) => some (Entries.insert key (.table .headed t) here)
    | some _ => none) path .headed

/-- Opens the next table of a repeated header. -/
def openElement (path : List String) (key : String) : Members → Option Members :=
  change .implied (fun _ here =>
    match here.lookup key with
    | none => some (Entries.insert key (.tables [] []) here)
    | some (.tables earlier t) => some (Entries.insert key (.tables (earlier ++ [t]) []) here)
    | some _ => none) path .headed

/-- Gives a key its value in the table of the header above it. -/
def putBelow (header path : List String) (key : String) (v : Value) : Members → Option Members :=
  change .implied (fun _ here => put path key v here) header .headed

end Members

namespace Value

/-- The items of a list, the tables of a repeated header among them. -/
def items? : Value → Option (List Value)
  | list items => some items
  | tables earlier last => some ((earlier ++ [last]).map (table .headed))
  | _ => none

end Value
end Screens.Toml
