import Mathlib.Data.List.Nodup
import Screens.Proofs.Interaction.Channel

/-! What a touch is answered.

Where several nodes have one identity, an action is listed if any visible node carries it;
but the first node of the identity may be a hidden one, and then the touch is refused
(`Document.handle_listed`). Where identities are distinct there is one node to ask
(`Document.interact_of_face`), and `Document.handleAll_serves` says in full what is
answered, handed on and received. -/
namespace Screens

namespace Document

variable {limit : Nat} {d : Document} {env : Environment}

/-- A touch of a listed identity sets its first listed action off if the first node of that
identity is visible; a hidden one before the node with the action keeps it back. -/
theorem handle_listed {r : Reachable} (h : r ∈ (d.render limit env).actions) (c : Channel) :
    ∃ (first : Face) (a : Action),
      (d.render limit env).faces.find? (·.identity = r.identity) = some first ∧
      (d.render limit env).actionFor? r.identity = some a ∧
      (d.render limit env).handle c (.touch r.identity) =
        if first.visible then (some (.ok a), c.send a)
        else (some (.error (.hidden r.identity)), c) := by
  obtain ⟨f, hf, hid, -, -⟩ := (mem_actions_render limit d env).1 h
  have hfound : ((d.render limit env).faces.find? (·.identity = r.identity)).isSome = true :=
    List.find?_isSome.2 ⟨f, hf, decide_eq_true hid⟩
  obtain ⟨first, hfirst⟩ := Option.isSome_iff_exists.1 hfound
  obtain ⟨a, ha⟩ := RenderTree.exists_actionFor? h
  refine ⟨first, a, hfirst, ha, ?_⟩
  rw [RenderTree.handle, RenderTree.interact_of_find? hfirst, ha]
  cases first.visible <;> rfl

/-- Paying, announced by a note that only some see. -/
def payment : Document :=
  .ofComponents "payment" "" [
    .text ⟨some "pay", none, none, [⟨"flags.beta", .present, ""⟩]⟩ "Pay in one step",
    .button ⟨some "pay", none, some (.ofTarget "submit" "pay"), []⟩ "Pay"]

def beta : Environment := .ofJson (.obj [("flags", .obj [("beta", .bool true)])])

/-- Those who see the note can pay. -/
theorem payment_with_note :
    ⟨"pay", .ofTarget "submit" "pay"⟩ ∈ (payment.render standardDepth beta).actions ∧
      (payment.render standardDepth beta).handle .opened (.touch "pay") =
        (some (.ok (.ofTarget "submit" "pay")), Channel.opened.send (.ofTarget "submit" "pay")) := by
  have hlisted : ⟨"pay", .ofTarget "submit" "pay"⟩ ∈
      (payment.render standardDepth beta).actions := by decide +kernel
  obtain ⟨first, a, hfirst, ha, hanswer⟩ := handle_listed hlisted .opened
  have hvisible : ((payment.render standardDepth beta).faces.find? (·.identity = "pay")).map
      (·.visible) = some true := by decide +kernel
  have haction : (payment.render standardDepth beta).actionFor? "pay" =
      some (.ofTarget "submit" "pay") := by decide +kernel
  rw [hfirst] at hvisible
  rw [haction] at ha
  obtain rfl := Option.some.inj ha
  rw [if_pos (Option.some.inj hvisible)] at hanswer
  exact ⟨hlisted, hanswer⟩

/-- The others cannot, though the action is listed. -/
theorem payment_without_note :
    ⟨"pay", .ofTarget "submit" "pay"⟩ ∈ (payment.render standardDepth .empty).actions ∧
      (payment.render standardDepth .empty).interact "pay" = .error (.hidden "pay") := by
  decide +kernel

/-! ### Distinct identities -/

/-- Where identities are distinct a touch is answered from the one node that has it. -/
theorem interact_of_face (h : ((d.render limit env).faces.map (·.identity)).Nodup) {f : Face}
    (hf : f ∈ (d.render limit env).faces) :
    (d.render limit env).interact f.identity =
      if f.visible then f.action.elim (.error (.noAction f.identity)) .ok
      else .error (.hidden f.identity) := by
  have honly : ∀ g ∈ (d.render limit env).faces, g.identity = f.identity → g = f :=
    fun g hg hid => List.inj_on_of_nodup_map h hg hf hid
  have hfound : (d.render limit env).faces.find? (·.identity = f.identity) = some f := by
    have hsome : ((d.render limit env).faces.find? (·.identity = f.identity)).isSome = true :=
      List.find?_isSome.2 ⟨f, hf, decide_eq_true rfl⟩
    obtain ⟨g, hg⟩ := Option.isSome_iff_exists.1 hsome
    have hid : g.identity = f.identity := by simpa using List.find?_some hg
    rw [hg, honly g (List.mem_of_find?_eq_some hg) hid]
  have hlisted : ∀ action, ⟨f.identity, action⟩ ∈ (d.render limit env).actions →
      f.action = some action := by
    intro action hmem
    obtain ⟨g, hg, hid, -, haction⟩ := (mem_actions_render limit d env).1 hmem
    rw [← honly g hg hid, haction]
  rw [RenderTree.interact_of_find? hfound]
  cases hv : f.visible with
  | false => rfl
  | true =>
    have hfor : (d.render limit env).actionFor? f.identity = f.action := by
      cases ha : f.action with
      | none =>
        refine RenderTree.actionFor?_eq_none.2 fun action hmem => ?_
        rw [ha] at hlisted
        cases hlisted action hmem
      | some action =>
        have hmem : ⟨f.identity, action⟩ ∈ (d.render limit env).actions :=
          (mem_actions_render limit d env).2 ⟨f, hf, rfl, hv, ha⟩
        obtain ⟨first, hfirst⟩ := RenderTree.exists_actionFor? hmem
        rw [hfirst, ← ha, hlisted first (RenderTree.mem_of_actionFor? hfirst)]
    rw [hfor]

theorem interact_of_absent {identity : String}
    (h : ∀ f ∈ (d.render limit env).faces, f.identity ≠ identity) :
    (d.render limit env).interact identity = .error (.unknownNode identity) := by
  have hnone : (d.render limit env).faces.find? (·.identity = identity) = none :=
    List.find?_eq_none.2 fun f hf => by simpa using h f hf
  exact RenderTree.interact_of_find?_eq_none hnone

end Document

namespace RenderTree

/-- What a touch is answered tells how the node of that identity stands. -/
structure Answers (tree : RenderTree) (identity : String)
    (outcome : Except InteractionError Action) : Prop where
  action : ∀ a, outcome = .ok a ↔
    ∃ f ∈ tree.faces, f.identity = identity ∧ f.visible = true ∧ f.action = some a
  hidden : outcome = .error (.hidden identity) ↔
    ∃ f ∈ tree.faces, f.identity = identity ∧ f.visible = false
  noAction : outcome = .error (.noAction identity) ↔
    ∃ f ∈ tree.faces, f.identity = identity ∧ f.visible = true ∧ f.action = none
  unknownNode : outcome = .error (.unknownNode identity) ↔
    ∀ f ∈ tree.faces, f.identity ≠ identity

/-- What comes of a series of interactions with a tree. -/
structure Serves (tree : RenderTree) (c : Channel) (is : List Interaction)
    (outcomes : List (Except InteractionError Action)) (last : Channel) : Prop where
  answers : List.Forall₂ tree.Answers (Interaction.touched is) outcomes
  /-- The actions of the touches that are answered with one, each once and in their order. -/
  sent : last.sent = c.sent ++ outcomes.filterMap Except.toOption
  received : last.received =
    c.received ++ delivered c.closed (tree.interactAll (Interaction.heard is)).2
  /-- No answer depends on the channel. -/
  steady : ∀ other : Channel, (tree.handleAll other is).1 = outcomes

end RenderTree

namespace Document

variable (limit : Nat) (d : Document) (env : Environment)

theorem interact_answers (h : ((d.render limit env).faces.map (·.identity)).Nodup)
    (identity : String) :
    (d.render limit env).Answers identity ((d.render limit env).interact identity) := by
  by_cases hmem : ∃ f ∈ (d.render limit env).faces, f.identity = identity
  · obtain ⟨f, hf, rfl⟩ := hmem
    have hone : ∀ p : Face → Prop,
        (∃ g ∈ (d.render limit env).faces, g.identity = f.identity ∧ p g) ↔ p f := by
      intro p
      constructor
      · rintro ⟨g, hg, hid, hp⟩
        rwa [← List.inj_on_of_nodup_map h hg hf hid]
      · exact fun hp => ⟨f, hf, rfl, hp⟩
    have hpresent : ¬ ∀ g ∈ (d.render limit env).faces, g.identity ≠ f.identity :=
      fun hall => hall f hf rfl
    rw [interact_of_face h hf]
    refine ⟨fun a => ?_, ?_, ?_, ?_⟩
    · rw [hone fun g => g.visible = true ∧ g.action = some a]
      cases f.visible <;> cases f.action <;> simp
    · rw [hone fun g => g.visible = false]
      cases f.visible <;> cases f.action <;> simp
    · rw [hone fun g => g.visible = true ∧ g.action = none]
      cases f.visible <;> cases f.action <;> simp
    · rw [iff_false_right hpresent]
      cases f.visible <;> cases f.action <;> simp
  · have habsent : ∀ f ∈ (d.render limit env).faces, f.identity ≠ identity :=
      fun f hf hid => hmem ⟨f, hf, hid⟩
    have hnone : ∀ p : Face → Prop,
        ¬ ∃ f ∈ (d.render limit env).faces, f.identity = identity ∧ p f :=
      fun p ⟨f, hf, hid, _⟩ => habsent f hf hid
    rw [interact_of_absent habsent]
    exact ⟨fun a => iff_of_false nofun (hnone _), iff_of_false nofun (hnone _),
      iff_of_false nofun (hnone _), iff_of_true rfl habsent⟩

theorem handleAll_serves (h : ((d.render limit env).faces.map (·.identity)).Nodup) (c : Channel)
    (is : List Interaction) :
    (d.render limit env).Serves c is ((d.render limit env).handleAll c is).1
      ((d.render limit env).handleAll c is).2 := by
  have hrun := (d.render limit env).handleAll_eq
  refine ⟨?_, ?_, ?_, fun other => ?_⟩
  · rw [hrun]
    exact List.forall₂_map_right_iff.2 (List.forall₂_same.2 fun identity _ =>
      interact_answers limit d env h identity)
  · rw [hrun]
    rfl
  · rw [hrun]
  · rw [hrun, hrun]

/-- A door to be opened by a button, with a sign, and a bell for staff alone. -/
def door : Document :=
  .ofComponents "door" "" [.ofText "sign" "Come in",
    .ofContainer .card "panel" [
      .button ⟨some "open", none, some (.ofTarget "open" "door"), []⟩ "Open",
      .button ⟨some "bell", none, some (.ofTarget "ring" "bell"), [⟨"staff", .present, ""⟩]⟩ "Ring"]]

/-- Two callers open the door, the second one when nobody is there to see to it. -/
def callers : List Interaction :=
  [.touch "open", .touch "bell", .touch "sign", .hangUp, .touch "porch", .touch "open"]

theorem door_served :
    ((door.render standardDepth .empty).faces.map (·.identity)).Nodup ∧
      (door.render standardDepth .empty).Serves .opened callers
        [.ok (.ofTarget "open" "door"), .error (.hidden "bell"), .error (.noAction "sign"),
          .error (.unknownNode "porch"), .ok (.ofTarget "open" "door")]
        ⟨[.ofTarget "open" "door", .ofTarget "open" "door"], [.ofTarget "open" "door"], true⟩ := by
  have hnodup : ((door.render standardDepth .empty).faces.map (·.identity)).Nodup := by
    decide +kernel
  have hrun : (door.render standardDepth .empty).handleAll .opened callers =
      ([.ok (.ofTarget "open" "door"), .error (.hidden "bell"), .error (.noAction "sign"),
        .error (.unknownNode "porch"), .ok (.ofTarget "open" "door")],
        ⟨[.ofTarget "open" "door", .ofTarget "open" "door"], [.ofTarget "open" "door"], true⟩) := by
    decide +kernel
  have hserves := handleAll_serves standardDepth door .empty hnodup .opened callers
  rw [hrun] at hserves
  exact ⟨hnodup, hserves⟩

end Document
end Screens
