import Screens.Proofs.Environment.Exactness
import Screens.Proofs.Number.Printed
import Screens.Proofs.Template.Fields

/-! Conditions written with a binding's own value.

A scalar in a template is kept as its text. Against a string or a truth value the text is compared
as it is; against a number it is read, and what a number prints is read back to it
(`numeral?_text`). So a scalar equals itself (`equals_own`), and a condition with it for a value
matches it (`matches_own_value`). -/
namespace Screens.Condition

/-- A number is read back from its text, an integer as the double nearest to it. -/
theorem numeral?_text (n : Number) :
    ∃ x, numeral? n.text = some (.finite x) ∧ x.rank = n.toDouble.rank := by
  cases n with
  | integer n range =>
    refine numeral?_of_writes ?_ range
    rw [Number.text, String.toList_ofList]
    exact Numeral.writes_toString n
  | decimal x =>
    refine ⟨x, ?_, rfl⟩
    rw [numeral?, Number.text, String.toList_ofList, Number.chars,
      trimBlank_eq_self (Double.not_blank_of_mem_chars .standard x)]
    exact Double.ofChars?_chars .standard x

theorem equals_own {s : Json} {literal : String} (h : s.scalar? = some literal) :
    scalarEquals? s literal = some true := by
  cases s with
  | num n =>
    obtain rfl : n.text = literal := Option.some.inj h
    obtain ⟨x, hx, hrank⟩ := numeral?_text n
    rw [scalarEquals?_num hx, Numeral.rank?, hrank, beq_self_eq_true]
  | str s =>
    obtain rfl : s = literal := Option.some.inj h
    simp [scalarEquals?, Json.scalar?]
  | bool b =>
    rw [scalarEquals?, h]
    · simp
    · simp
  | null | arr _ | obj _ => cases h

theorem contains_own {s : Json} {literal : String} (h : s.scalar? = some literal)
    {items : List Json} (hmem : s ∈ items) : contains? (.arr items) literal = some true := by
  have hany : (items.any fun item => scalarEquals? item literal == some true) = true :=
    List.any_eq_true.2 ⟨s, hmem, by rw [equals_own h]; rfl⟩
  rw [contains?, hany]

/-! ### Written conditions -/

/-- A condition as a template has it, the literal any value. -/
def written (field operator : String) (value : Json) : Json :=
  .obj [("field", .str field), ("operator", .str operator), ("value", value)]

/-- Whether a written condition holds, if it can be decoded. -/
def answer? (field operator : String) (value : Json) (scope : Scope) : Option Bool :=
  (decode? (written field operator value)).map (·.holds scope)

theorem decode?_written (field : String) (op : Operator) (value : Json) :
    decode? (written field op.name value) = some ⟨field, op, value.scalar?.getD ""⟩ := by
  have hop : Operator.decode? (.str op.name) = some op := Operator.decode_encode op
  simp [decode?, written, Json.parts?, Tolerant.scalar, Tolerant.optional, List.lookup_cons,
    Json.scalar?, hop]

theorem answer?_of_lookup {field : String} {s v : Json} {scope : Scope} {literal : String}
    (hs : s.scalar? = some literal) (h : scope.lookup field = some v) (op : Operator) :
    answer? field op.name s scope = some (op.admits v literal) := by
  rw [answer?, decode?_written, hs, Option.map_some, Option.getD_some, holds_of_lookup h]

/-- A scalar written in a condition matches the binding that it is and the array it is in. -/
theorem matches_own_value (field : String) {s : Json} (hs : IsScalar s) (scope : Scope) :
    (scope.lookup field = some s →
      answer? field "equals" s scope = some true ∧
      answer? field "notEquals" s scope = some false) ∧
    (∀ items, scope.lookup field = some (.arr items) → s ∈ items →
      answer? field "contains" s scope = some true ∧
      answer? field "notContains" s scope = some false) := by
  obtain ⟨literal, hliteral⟩ : ∃ literal, s.scalar? = some literal := by
    cases hs <;> exact ⟨_, rfl⟩
  constructor
  · intro h
    have hequals := answer?_of_lookup hliteral h .equals
    have hdiffers := answer?_of_lookup hliteral h .notEquals
    simp only [Operator.admits, equals_own hliteral] at hequals hdiffers
    exact ⟨hequals, hdiffers⟩
  · intro items h hmem
    have hholds := answer?_of_lookup hliteral h .contains
    have hlacks := answer?_of_lookup hliteral h .notContains
    simp only [Operator.admits, contains_own hliteral hmem] at hholds hlacks
    exact ⟨hholds, hlacks⟩

/-- The double nearest to a tenth. -/
def tenth : Json := .num (.decimal ⟨false, 4591870180066957722, by decide⟩)

/-- A rate of a tenth, and a tenth among other rates. -/
def rates : Environment := .ofJson (.obj [("rate", tenth), ("rates", .arr [.null, tenth])])

theorem tenth_matches_tenth :
    answer? "rate" "equals" tenth (.root rates) = some true ∧
      answer? "rates" "notContains" tenth (.root rates) = some false := by
  have hrate : (Scope.root rates).lookup "rate" = some tenth := by decide +kernel
  have hrates : (Scope.root rates).lookup "rates" = some (.arr [.null, tenth]) := by decide +kernel
  exact ⟨((matches_own_value "rate" (.num _) _).1 hrate).1,
    ((matches_own_value "rates" (.num _) _).2 _ hrates (.tail _ (.head _))).2⟩

end Screens.Condition
