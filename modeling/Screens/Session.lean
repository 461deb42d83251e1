import Screens.Render.Evaluate
import Screens.Resources.Loader

/-! Publishing passes of a screen in order.

Passes may end in any order. Each has a generation, and a tree is published only if
its generation is greater than that of the tree already out. With a loader, what is
published is fetched too, and what no pass wants any more is aborted. -/
namespace Screens

structure Published where
  generation : UInt64
  tree : RenderTree
deriving DecidableEq

structure Session where
  /-- The last generation given out. -/
  clock : UInt64
  published : Option Published
  /-- How often what is published has changed. -/
  updates : Nat
  loader : Option Loader
deriving DecidableEq

namespace Session

def start (loader : Option Loader) : Session := ⟨0, none, 0, loader⟩

/-- Gives out the next generation. -/
def begin (s : Session) : UInt64 × Session := (s.clock + 1, { s with clock := s.clock + 1 })

/-- The generation is newer than what is published. -/
def accepts (s : Session) (generation : UInt64) : Bool :=
  match s.published with
  | some p => p.generation < generation
  | none => true

/-- The tree with what the loader knows of its resources. -/
def annotated (s : Session) (tree : RenderTree) : RenderTree :=
  match s.loader with
  | some loader => loader.annotate tree
  | none => tree

/-- Starts what a published tree needs and aborts what it does not. -/
def fetchFor (fetchable : String → Bool) (tree : RenderTree) (generation : UInt64)
    (loader : Loader) : Loader :=
  ((loader.request fetchable tree generation).2.cancelStale generation).2

/-- Publishes a tree unless one of the same or a newer generation is out. -/
def publish (fetchable : String → Bool) (s : Session) (generation : UInt64) (tree : RenderTree) :
    Bool × Session :=
  if s.accepts generation then
    let tree := s.annotated tree
    (true, { s with
      published := some ⟨generation, tree⟩
      updates := s.updates + 1
      loader := s.loader.map (fetchFor fetchable tree generation) })
  else (false, s)

/-- Draws a document as a pass of its own; tells the generation if it was published. -/
def render (fetchable : String → Bool) (s : Session) (limit : Nat) (d : Document)
    (env : Environment) : Option UInt64 × Session :=
  let (generation, s) := s.begin
  let (accepted, s) := s.publish fetchable generation (d.render limit env)
  (if accepted then some generation else none, s)

/-- Brings the published tree up to date after a fetch has ended, whichever it was;
tells whether the tree changed. -/
def applyEvent (s : Session) (_event : ResourceEvent) : Bool × Session :=
  match s.loader, s.published with
  | some loader, some p =>
    let tree := loader.annotate p.tree
    if tree.same p.tree then (false, s)
    else (true, { s with published := some { p with tree }, updates := s.updates + 1 })
  | _, _ => (false, s)

/-- A fetch ends. -/
def finish (s : Session) (url : String) (outcome : Except FetchError (List UInt8)) : Session :=
  { s with loader := s.loader.map fun loader => loader.finish url outcome }

end Session
end Screens
