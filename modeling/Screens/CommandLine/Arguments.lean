/-! The arguments of the command line.

A command is named first and has options and at most one operand. Options have a long
and a short name and take a value, in the next argument or attached; after `--` all
arguments are operands. Arguments are taken from left to right. One whose value is
complete is examined when the next one is recognized, so an argument that is not known
counts before a fault of the one in front of it. -/
namespace Screens.CommandLine

/-- Why the arguments are no command. -/
inductive Usage where
  | missingRequired
  | unknownArgument
  /-- An option is given twice. -/
  | conflict
  | invalidValue
  | tooManyValues
  | invalidCommand
  /-- There is nothing, so help is shown. -/
  | nothing
  | help
  | version
deriving DecidableEq

/-- Asking for help or the version is no mistake. -/
def Usage.exitCode : Usage → Nat
  | help | version => 0
  | _ => 2

inductive Command where
  | serve (config bind templates : Option String)
  | render (screenId templates : String) (env locale user : Option String)
  | check (file : String)
deriving DecidableEq

/-- What a value is given for. -/
structure Slot where
  name : String
  /-- A path is never empty. -/
  isPath : Bool
deriving DecidableEq

/-- What a command takes: options under their short names, and an operand. -/
structure Rules where
  options : List (Char × Slot)
  operand : Option Slot

namespace Rules

def long? (rules : Rules) (name : String) : Option Slot :=
  (rules.options.map (·.2)).find? (·.name == name)

def short? (rules : Rules) (c : Char) : Option Slot := rules.options.lookup c

def serve : Rules :=
  ⟨[('c', ⟨"config", true⟩), ('b', ⟨"bind", false⟩), ('t', ⟨"templates", true⟩)], none⟩

def render : Rules :=
  ⟨[('t', ⟨"templates", true⟩), ('e', ⟨"env", true⟩), ('l', ⟨"locale", false⟩),
    ('u', ⟨"user", false⟩)], some ⟨"screen id", false⟩⟩

def check : Rules := ⟨[], some ⟨"file", true⟩⟩

end Rules

/-! ### Taking arguments -/

/-- The values examined so far, and the argument that is not: its value may be missing. -/
structure Given where
  values : List (String × String)
  pending : Option (Slot × Option String)

namespace Given

def nothing : Given := ⟨[], none⟩

def value? (given : Given) (name : String) : Option String := given.values.lookup name

def examine (given : Given) (slot : Slot) (value : String) : Except Usage Given :=
  if (given.value? slot.name).isSome then .error .conflict
  else if slot.isPath ∧ value.isEmpty then .error .invalidValue
  else .ok ⟨given.values ++ [(slot.name, value)], none⟩

/-- Examines the pending argument. -/
def settle (given : Given) : Except Usage Given :=
  match given.pending with
  | none => .ok given
  | some (_, none) => .error .invalidValue
  | some (slot, some value) => given.examine slot value

/-- Takes an option whose value is attached. -/
def attach (given : Given) (slot : Slot) (value : String) : Except Usage Given := do
  (← given.settle).examine slot value

/-- Takes an argument to be examined later. -/
def await (given : Given) (slot : Slot) (value : Option String) : Except Usage Given := do
  return { ← given.settle with pending := some (slot, value) }

def holds (given : Given) (slot : Slot) : Bool :=
  (given.value? slot.name).isSome || (given.pending.map (·.1)) == some slot

/-- Takes an operand, if there is one and it has not been given. -/
def operand (given : Given) (rules : Rules) (value : String) : Except Usage Given :=
  match rules.operand with
  | some slot => if given.holds slot then .error .unknownArgument else given.await slot (some value)
  | none => .error .unknownArgument

/-- Takes what does not look like an option: the value an option waits for, or an operand. -/
def word (given : Given) (rules : Rules) (value : String) : Except Usage Given :=
  match given.pending with
  | some (slot, none) => .ok { given with pending := some (slot, some value) }
  | _ => given.operand rules value

end Given

/-- The name of a long option and the value attached to it. -/
def longParts (cs : List Char) : String × Option String :=
  let name := cs.takeWhile (· != '=')
  (String.ofList name,
    if name.length < cs.length then some (String.ofList (cs.drop (name.length + 1))) else none)

def takeLong (rules : Rules) (given : Given) (cs : List Char) : Except Usage Given :=
  match longParts cs with
  | ("help", some _) => .error .tooManyValues
  | ("help", none) => given.settle.bind fun _ => .error .help
  | (name, value) =>
    match rules.long? name, value with
    | none, _ => .error .unknownArgument
    | some slot, some value => given.attach slot value
    | some slot, none => given.await slot none

/-- A short option; what follows its letter, less an equals sign, is its value. -/
def takeShort (rules : Rules) (given : Given) (c : Char) (rest : List Char) : Except Usage Given :=
  if c = 'h' then given.settle.bind fun _ => .error .help
  else match rules.short? c, rest with
    | none, _ => .error .unknownArgument
    | some slot, [] => given.await slot none
    | some slot, '=' :: value => given.attach slot (String.ofList value)
    | some slot, value => given.attach slot (String.ofList value)

/-- Takes the arguments of a command. -/
def takeAll (rules : Rules) : List String → Given → Except Usage Given
  | [], given => given.settle
  | arg :: rest, given => do
    match arg.toList with
    | ['-', '-'] => (← rest.foldlM (fun given value => given.operand rules value) given).settle
    | '-' :: '-' :: cs => takeAll rules rest (← takeLong rules given cs)
    | '-' :: c :: cs => takeAll rules rest (← takeShort rules given c cs)
    | _ => takeAll rules rest (← given.word rules arg)

/-! ### Commands -/

def required (value : Option String) : Except Usage String :=
  match value with
  | some value => .ok value
  | none => .error .missingRequired

def serveOf (args : List String) : Except Usage Command := do
  let given ← takeAll .serve args .nothing
  return .serve (given.value? "config") (given.value? "bind") (given.value? "templates")

def renderOf (args : List String) : Except Usage Command := do
  let given ← takeAll .render args .nothing
  return .render (← required (given.value? "screen id")) (← required (given.value? "templates"))
    (given.value? "env") (given.value? "locale") (given.value? "user")

def checkOf (args : List String) : Except Usage Command := do
  let given ← takeAll .check args .nothing
  return .check (← required (given.value? "file"))

def commandNames : List String := ["serve", "render", "check", "help"]

/-- Help on a command, which itself has none below it. -/
def helpOf : List String → Usage
  | [] => .help
  | [name] => if commandNames.contains name then .help else .invalidCommand
  | _ => .invalidCommand

/-- Flags in front of the command, each of which ends the matter. -/
def flagOf (cs : List Char) : Usage :=
  match cs with
  | '-' :: cs =>
    match longParts cs with
    | ("help", none) => .help
    | ("version", none) => .version
    | ("help", some _) | ("version", some _) => .tooManyValues
    | _ => .unknownArgument
  | 'h' :: _ => .help
  | 'V' :: _ => .version
  | _ => .unknownArgument

/-- The command the arguments stand for. -/
def parse : List String → Except Usage Command
  | [] | ["--"] => .error .nothing
  | "--" :: name :: _ =>
    .error (if commandNames.contains name then .unknownArgument else .invalidCommand)
  | "serve" :: args => serveOf args
  | "render" :: args => renderOf args
  | "check" :: args => checkOf args
  | "help" :: args => .error (helpOf args)
  | arg :: _ =>
    match arg.toList with
    | '-' :: c :: cs => .error (flagOf (c :: cs))
    | _ => .error .invalidCommand

end Screens.CommandLine
