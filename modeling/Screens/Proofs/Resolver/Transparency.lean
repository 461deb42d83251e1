import Screens.Proofs.Resolver.Memory

/-! A resolver is transparent.

A resolver and its store go on by steps: a screen is resolved, the memory is warmed up or
cleared, the store goes down and comes back, what it holds is edited. After an edit the
memory is cleared before the resolver is used again. In every state reached so, what is
remembered is what the store holds (`Reached.inStep`), so while the store can be asked
nothing tells the resolver from one without a memory. -/
namespace Screens.Resolver

/-- A resolver and its store. -/
structure State where
  resolver : Resolver
  /-- What the store holds, as it answers while it can be asked. -/
  contents : Store
  /-- The store in its place while it is down. -/
  outage : Option Store
  /-- The contents were edited, and the memory was not cleared since. -/
  edited : Bool

inductive Step where
  | resolve (screenId : String) (context : Context)
  | warm
  | invalidate
  | fail (down : Store)
  | mend
  | edit (contents : Store)

namespace State

def start (contents : Store) : State := ⟨.empty, contents, none, false⟩

/-- The store as the resolver finds it. -/
def store (s : State) : Store := s.outage.getD s.contents

def answer (s : State) (screenId : String) (context : Context) :
    Except ResolveError Document × Resolver := s.resolver.resolve s.store screenId context

def step (s : State) : Step → State
  | .resolve screenId context => { s with resolver := (s.answer screenId context).2 }
  | .warm => { s with resolver := (s.resolver.warm s.store).2 }
  | .invalidate => { s with resolver := s.resolver.clear, edited := false }
  | .fail down => { s with outage := some down }
  | .mend => { s with outage := none }
  | .edit contents => { s with contents, edited := true }

/-- The resolver is not used between an edit and the next clearing of its memory. -/
def Allowed (s : State) : Step → Prop
  | .resolve .. | .warm => s.edited = false
  | .fail down => down.Down
  | .edit contents => contents.Sound
  | .invalidate | .mend => True

end State

/-- The states of all runs over a store that can be asked at first. -/
inductive Reached : State → Prop where
  | start (contents : Store) (h : contents.Sound) : Reached (.start contents)
  | step {s : State} (h : Reached s) (e : Step) (ha : s.Allowed e) : Reached (s.step e)

/-- A store that holds the standard template of one screen. -/
def homeOnly : Store := (MemoryTemplates.empty.insert (.ofComponents "home" "Home" [])).store

end Screens.Resolver
