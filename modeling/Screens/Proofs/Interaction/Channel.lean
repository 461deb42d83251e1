import Mathlib.Data.List.Basic
import Screens.Proofs.Interaction.Search

/-! Interactions one after the other, and the channel their actions go to.

An action that is set off is handed to a channel, whoever is left to receive it: no answer
depends on the receiver, which gets what is handed on until it hangs up. This is so of one
touch (`RenderTree.handle_touch`), and then of any series of interactions
(`RenderTree.handleAll_eq`). -/
namespace Screens

/-- Where actions are handed on: the queue never fills up, but its receiver may be gone. -/
structure Channel where
  /-- All that was handed on, in order. -/
  sent : List Action
  /-- What came to the receiver, in order. -/
  received : List Action
  closed : Bool
deriving DecidableEq

namespace Channel

def opened : Channel := ⟨[], [], false⟩

def send (c : Channel) (a : Action) : Channel :=
  { c with
    sent := c.sent ++ [a]
    received := c.received ++ RenderTree.delivered c.closed [a] }

def close (c : Channel) : Channel := { c with closed := true }

end Channel

inductive Interaction where
  | touch (identity : String)
  /-- The receiver of the actions goes away. -/
  | hangUp
deriving DecidableEq

namespace Interaction

def identity? : Interaction → Option String
  | touch identity => some identity
  | hangUp => none

/-- The identities touched, in order. -/
def touched (is : List Interaction) : List String := is.filterMap identity?

/-- Those touched before the receiver goes away. -/
def heard (is : List Interaction) : List String := touched (is.takeWhile (· ≠ hangUp))

end Interaction

namespace RenderTree

/-- One interaction: what it answers, if it is a touch, and the channel after it. -/
def handle (tree : RenderTree) (c : Channel) :
    Interaction → Option (Except InteractionError Action) × Channel
  | .touch identity =>
    let outcome := tree.interact identity
    (some outcome, (outcome.toOption.map c.send).getD c)
  | .hangUp => (none, c.close)

/-- A series of interactions: the answers in order, and the channel at the end. -/
def handleAll (tree : RenderTree) (c : Channel) :
    List Interaction → List (Except InteractionError Action) × Channel
  | [] => ([], c)
  | i :: rest =>
    let (answer, next) := tree.handle c i
    let (later, last) := tree.handleAll next rest
    (answer.toList ++ later, last)

/-! ### What is handed on -/

theorem delivered_nil (closed : Bool) : delivered closed [] = [] := ite_self []

theorem delivered_append (closed : Bool) (a b : List Action) :
    delivered closed (a ++ b) = delivered closed a ++ delivered closed b := by
  cases closed <;> rfl

theorem interactAll_cons (tree : RenderTree) (identity : String) (rest : List String) :
    tree.interactAll (identity :: rest) =
      (tree.interact identity :: (tree.interactAll rest).1,
        (tree.interact identity).toOption.toList ++ (tree.interactAll rest).2) := by
  simp only [interactAll, List.map_cons, List.filterMap_cons]
  cases (tree.interact identity).toOption <;> rfl

theorem handleAll_cons (tree : RenderTree) (c : Channel) (i : Interaction)
    (rest : List Interaction) :
    tree.handleAll c (i :: rest) =
      ((tree.handle c i).1.toList ++ (tree.handleAll (tree.handle c i).2 rest).1,
        (tree.handleAll (tree.handle c i).2 rest).2) := rfl

/-- A touch hands its action on, if it sets one off, and leaves the receiver where it is. -/
theorem handle_touch (tree : RenderTree) (c : Channel) (identity : String) :
    tree.handle c (.touch identity) =
      (some (tree.interact identity),
        { c with
          sent := c.sent ++ (tree.interact identity).toOption.toList
          received := c.received ++
            delivered c.closed (tree.interact identity).toOption.toList }) := by
  rw [handle]
  cases (tree.interact identity).toOption with
  | none =>
    simp only [Option.map_none, Option.getD_none, Option.toList_none, delivered_nil,
      List.append_nil]
  | some a => rfl

/-- A series of interactions answers every touch as if there were no channel; the channel
takes what is set off, and the receiver what is set off before it hangs up. -/
theorem handleAll_eq (tree : RenderTree) (c : Channel) (is : List Interaction) :
    tree.handleAll c is =
      ((tree.interactAll (Interaction.touched is)).1,
        { sent := c.sent ++ (tree.interactAll (Interaction.touched is)).2
          received := c.received ++
            delivered c.closed (tree.interactAll (Interaction.heard is)).2
          closed := c.closed || is.contains .hangUp }) := by
  induction is generalizing c with
  | nil =>
    have htouched : Interaction.touched [] = [] := rfl
    have hheard : Interaction.heard [] = [] := rfl
    have hnone : tree.interactAll [] = ([], []) := rfl
    rw [htouched, hheard, hnone, delivered_nil, List.append_nil, List.append_nil,
      List.contains_nil, Bool.or_false]
    rfl
  | cons i rest ih =>
    cases i with
    | touch identity =>
      have htouched : Interaction.touched (.touch identity :: rest) =
          identity :: Interaction.touched rest := rfl
      have hheard : Interaction.heard (.touch identity :: rest) =
          identity :: Interaction.heard rest := rfl
      rw [handleAll_cons, handle_touch, ih, htouched, hheard, interactAll_cons,
        interactAll_cons, delivered_append, List.append_assoc, List.append_assoc]
      rfl
    | hangUp =>
      -- From here on the channel is closed, and nothing more is heard.
      have htouched : Interaction.touched (.hangUp :: rest) = Interaction.touched rest := rfl
      have hheard : Interaction.heard (.hangUp :: rest) = [] := rfl
      have hclosed : (tree.handle c .hangUp).2 = c.close := rfl
      have hnone : (tree.interactAll []).2 = [] := rfl
      have hcontains : (Interaction.hangUp :: rest).contains .hangUp = true := rfl
      rw [handleAll_cons, hclosed, ih, htouched, hheard, hnone, delivered_nil, hcontains,
        Bool.or_true]
      rfl

end RenderTree
end Screens
