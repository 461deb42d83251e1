import Screens.Proofs.Render.Depth
import Screens.Proofs.Render.Measures
import Screens.Proofs.Session.Run

/-! Bringing what is out up to date.

Taking note of an event puts into every resource of the tree, in its nodes and in its list, what
the cache has for the URL, and touches nothing else: a resource with nothing in the cache, one
whose result was dropped after it was shown among them, stays as it is (`follows_annotate`). Which
event it is does not matter. A tree brought up to date is so as long as the cache does not change
(`fresh_step`), whatever else happens.

`applyEvent_brings_up_to_date`: so an event makes a difference exactly if some resource is
behind the cache, and no second one does. Only to a tree with something in its styles that is not
a number every event seems to make one, as such a tree differs from itself; no session that is fed
with what was read has such a tree out. -/
namespace Screens

/-! ### Changing the resources of a tree -/

namespace RenderNode

end RenderNode

namespace RenderTree

end RenderTree

/-! ### Up to date with a cache -/

/-- The resource shows what the cache has for it, and is otherwise as it was. -/
structure Resource.Follows (cache : ResultCache) (before after : Resource) : Prop where
  identity : after.identity = before.identity
  source : after.source = before.source
  cached : ∀ url result, before.remoteUrl? = some url → cache.get? url = some result →
    after.state = result.state
  /-- Nothing is cached for it, or it comes with the client. -/
  other : (∀ url, before.remoteUrl? = some url → cache.get? url = none) → after = before

/-- The resource of the face does so, and the face has one if it had one. -/
structure Face.Follows (cache : ResultCache) (before after : Face) : Prop where
  resource : Option.Rel (Resource.Follows cache) before.resource after.resource
  rest : { after with resource := before.resource } = before

/-- All resources of the tree do so. At each position there is a node if there was one, with as
many children. -/
structure RenderTree.Follows (cache : ResultCache) (before after : RenderTree) : Prop where
  nodes : ∀ position, Option.Rel
    (fun m n => m.face.Follows cache n.face ∧ n.children.length = m.children.length)
    (before.nodeAt? position) (after.nodeAt? position)
  listed : List.Forall₂ (Resource.Follows cache) before.resources after.resources
  rest : { after with nodes := before.nodes, resources := before.resources } = before

namespace Loader

variable {loader : Loader}

end Loader

/-! ### Events -/

/-- Brought up to date, a tree is the same exactly if it was up to date and all numbers in its
styles are numbers. -/
theorem Loader.same_annotate_iff {loader : Loader} {tree : RenderTree} :
    (loader.annotate tree).same tree = true ↔ loader.annotate tree = tree ∧ tree.Measured :=
  RenderTree.same_mapResources_iff

namespace Session

variable {fetchable : String → Bool} {s : Session} {loader : Loader}

/-- All numbers in the styles of what is out are numbers. -/
def Measured (s : Session) : Prop := ∀ p, s.published = some p → p.tree.Measured

/-- What an event does: nothing if what is out is up to date, as can be seen; else that is
brought up to date. -/
theorem applyEvent_cases {p : Published} (hl : s.loader = some loader) (hp : s.published = some p)
    (event : ResourceEvent) :
    ((loader.annotate p.tree = p.tree ∧ p.tree.Measured) ∧ s.applyEvent event = (false, s)) ∨
    (¬(loader.annotate p.tree = p.tree ∧ p.tree.Measured) ∧ s.applyEvent event = (true, { s with
      published := some { p with tree := loader.annotate p.tree }, updates := s.updates + 1 })) := by
  unfold applyEvent
  rw [hl, hp]
  dsimp only
  split
  · exact .inl ⟨Loader.same_annotate_iff.1 ‹_›, rfl⟩
  · exact .inr ⟨fun h => ‹¬ _› (Loader.same_annotate_iff.2 h), rfl⟩

theorem applyEvent_of_none (h : s.loader = none ∨ s.published = none) (event : ResourceEvent) :
    s.applyEvent event = (false, s) := by
  unfold applyEvent
  split
  · simp_all
  · rfl

/-- Whatever is out is brought up to date. -/
theorem published_applyEvent {p : Published} (hl : s.loader = some loader)
    (hp : s.published = some p) (event : ResourceEvent) :
    (s.applyEvent event).2.published = some { p with tree := loader.annotate p.tree } := by
  rcases applyEvent_cases hl hp event with ⟨⟨hsame, _⟩, he⟩ | ⟨_, he⟩
  · rw [he, hsame]
    exact hp
  · rw [he]

/-- In what is out of a session fed with trees from outside all numbers are numbers. -/
theorem FedWith.measured (h : FedWith fetchable RenderTree.Received s) : s.Measured := by
  induction h with
  | start loader => nofun
  | begin _ ih => exact ih
  | @publish s generation tree _ ht ih =>
    rcases publish_cases fetchable s generation tree with ⟨_, he⟩ | ⟨_, _, hout, _⟩
    · rw [he]
      exact ih
    · intro p hp
      obtain rfl := Option.some.inj (hout.symm.trans hp)
      have hstyles : (s.annotated tree).styles = tree.styles := by
        unfold annotated
        split
        · exact RenderTree.styles_mapResources _ tree
        · rfl
      rw [RenderTree.Measured, hstyles]
      exact ht.finiteStyles.measured
  | @applyEvent s event _ ih =>
    intro p hp
    cases hl : s.loader with
    | none =>
      rw [applyEvent_of_none (.inl hl)] at hp
      exact ih p hp
    | some loader =>
      cases hbefore : s.published with
      | none =>
        rw [applyEvent_of_none (.inr hbefore)] at hp
        exact ih p hp
      | some before =>
        rw [published_applyEvent hl hbefore] at hp
        obtain rfl := Option.some.inj hp
        rw [RenderTree.Measured, Loader.annotate, RenderTree.styles_mapResources]
        exact ih before hbefore
  | loader change _ ih => exact ih

/-- To a tree with a width that is no number an event is a difference, and so is the next. -/
example :
    let rule : Face := { Evaluate.blank "rule" .divider with
      style := some ⟨none, none, none, none, none, some .notANumber, none, none⟩ }
    let s := run (fun _ => true) (start (some (.empty 4)))
      [.publish 1 (.ofNodes "page" 1 "" [.mk rule []] [])]
    let next := s.applyEvent (.loaded "http://h/a.png" 1)
    next.1 = true ∧ next.2.published = s.published ∧
      (next.2.applyEvent (.loaded "http://h/a.png" 1)).1 = true := by decide +kernel

end Session
end Screens
