import Screens.Proofs.Environment.Operators
import Screens.Proofs.Number.Integers

/-! Conditions on integers.

An integer binding and a literal that writes an integer are compared by their nearest doubles,
that is, rounded to 53 binary digits (`tells_rounded`). Rounding keeps the order, so the
comparisons go wrong for just those integers that differ and are brought together by it
(`integers_compared`): none up to `2 ^ 53`, but `2 ^ 53 + 1` equals `2 ^ 53`
(`neighbour_taken_for_equal`). -/
namespace Screens.Condition

open Number (InRange rounded)

variable {n m : Int} {literal : String}

/-- Pairs in the same order are told alike. -/
theorem Tells.of_order {holds : Operator → Bool} {a b c d : Int} (h : Tells holds a b)
    (hlt : a < b ↔ c < d) (hgt : b < a ↔ d < c) : Tells holds c d where
  equals := by
    rw [h.equals]
    omega
  notEquals := by
    rw [h.notEquals]
    omega
  lessThan := by
    rw [h.lessThan]
    omega
  lessThanOrEqual := by
    rw [h.lessThanOrEqual]
    omega
  greaterThan := by
    rw [h.greaterThan]
    omega
  greaterThanOrEqual := by
    rw [h.greaterThanOrEqual]
    omega

theorem numeral?_of_writes (h : Numeral.Writes literal.toList m) (range : InRange m) :
    ∃ x, numeral? literal = some (.finite x) ∧
      x.rank = (Number.integer m range).toDouble.rank := by
  rw [numeral?, trimBlank_eq_self h.not_blank]
  exact Number.ofChars?_of_writes h range

/-- The comparisons tell the order of the integers rounded. -/
theorem tells_rounded (hn : InRange n) (hm : InRange m) (hliteral : Numeral.Writes literal.toList m) :
    Tells (fun op => op.admits (.num (.integer n hn)) literal) (rounded n) (rounded m) := by
  obtain ⟨x, hx, hrank⟩ := numeral?_of_writes hliteral hm
  have htells := tells_order (n := .integer n hn) hx rfl
  rw [hrank] at htells
  exact htells.of_order (Number.rank_toDouble_lt hn hm) (Number.rank_toDouble_lt hm hn)

/-- The order of the integers rounded is that of the integers unless they become one. -/
theorem tells_iff_of_rounded {holds : Operator → Bool} (h : Tells holds (rounded n) (rounded m)) :
    Tells holds n m ↔ (n = m ∨ rounded n ≠ rounded m) := by
  constructor
  · intro hexact
    by_cases heq : rounded n = rounded m
    · exact .inl (hexact.equals.1 (h.equals.2 heq))
    · exact .inr heq
  · intro hapart
    have hup : n ≤ m → rounded n ≤ rounded m := Number.rounded_le_rounded
    have hdown : m ≤ n → rounded m ≤ rounded n := Number.rounded_le_rounded
    have hself : n = m → rounded n = rounded m := congrArg rounded
    exact h.of_order (by omega) (by omega)

/-- An array of integers has an item that is the literal's integer rounded. -/
theorem contains_rounded (hm : InRange m) (hliteral : Numeral.Writes literal.toList m)
    {items : List Json} (hitems : ∀ v ∈ items, ∃ k range, v = .num (.integer k range)) :
    Operator.admits .contains (.arr items) literal ↔
      ∃ k range, .num (.integer k range) ∈ items ∧ rounded k = rounded m := by
  have hadmits : Operator.admits .contains (.arr items) literal =
      items.any fun item => Operator.admits .equals item literal := by
    simp [Operator.admits, contains?]
  rw [hadmits, List.any_eq_true]
  constructor
  · rintro ⟨v, hv, hequals⟩
    obtain ⟨k, range, rfl⟩ := hitems v hv
    exact ⟨k, range, hv, (tells_rounded range hm hliteral).equals.1 hequals⟩
  · rintro ⟨k, range, hmem, heq⟩
    exact ⟨_, hmem, (tells_rounded range hm hliteral).equals.2 heq⟩

/-- An integer binding and a literal in decimal are compared exactly if the two are the same or
stay apart when they are rounded to 53 binary digits, and only then; so they are up to
`2 ^ 53`. In an array the literal's integer is found exactly if it is there or no item
becomes the same by rounding. -/
theorem integers_compared (hm : InRange m) (hliteral : Numeral.Writes literal.toList m)
    (field : String) (scope : Scope) :
    (∀ n (hn : InRange n), scope.lookup field = some (.num (.integer n hn)) →
      (Tells (fun op => Condition.holds ⟨field, op, literal⟩ scope) n m ↔
        (n = m ∨ rounded n ≠ rounded m)) ∧
      (n.natAbs ≤ 2 * power 2 52 → m.natAbs ≤ 2 * power 2 52 →
        Tells (fun op => Condition.holds ⟨field, op, literal⟩ scope) n m)) ∧
    ∀ items, (∀ v ∈ items, ∃ n range, v = .num (.integer n range)) →
      scope.lookup field = some (.arr items) →
      ((Condition.holds ⟨field, .contains, literal⟩ scope ↔ .num (.integer m hm) ∈ items) ↔
        (.num (.integer m hm) ∈ items ∨
          ∀ n range, .num (.integer n range) ∈ items → rounded n ≠ rounded m)) := by
  constructor
  · intro n hn hlookup
    have hrounded : Tells (fun op => Condition.holds ⟨field, op, literal⟩ scope) (rounded n)
        (rounded m) := by
      simp only [holds_of_lookup hlookup]
      exact tells_rounded hn hm hliteral
    refine ⟨tells_iff_of_rounded hrounded, fun hnSmall hmSmall => ?_⟩
    rwa [Number.rounded_eq_self hnSmall, Number.rounded_eq_self hmSmall] at hrounded
  · intro items hitems hlookup
    rw [holds_of_lookup hlookup, contains_rounded hm hliteral hitems]
    constructor
    · intro hexact
      by_cases hmem : .num (.integer m hm) ∈ items
      · exact .inl hmem
      · exact .inr fun n range hn heq => hmem (hexact.1 ⟨n, range, hn, heq⟩)
    · rintro (hmem | hapart)
      · exact ⟨fun _ => hmem, fun _ => ⟨m, hm, hmem, rfl⟩⟩
      · constructor
        · rintro ⟨n, range, hn, heq⟩
          exact absurd heq (hapart n range hn)
        · intro hmem
          exact absurd rfl (hapart m hm hmem)

/-- An account's number, and the numbers of those it may see. -/
def accounts : Scope := .root (.ofJson (.obj [
  ("account", .num (.integer 9007199254740994 (by decide))),
  ("visible", .arr [.num (.integer 9007199254740993 (by decide)), .num (.integer 7 (by decide))])]))

/-- The account's number is told from its neighbour's neighbour; but that one is not among the
visible ones, where one becomes the same by rounding, and so it is taken to be there. -/
theorem accounts_compared :
    Numeral.Writes "+09007199254740992".toList 9007199254740992 ∧
    accounts.lookup "account" = some (.num (.integer 9007199254740994 (by decide))) ∧
    accounts.lookup "visible" = some (.arr
      [.num (.integer 9007199254740993 (by decide)), .num (.integer 7 (by decide))]) ∧
    Tells (fun op => Condition.holds ⟨"account", op, "+09007199254740992"⟩ accounts)
      9007199254740994 9007199254740992 ∧
    ¬ (Condition.holds ⟨"visible", .contains, "+09007199254740992"⟩ accounts ↔
      .num (.integer 9007199254740992 (by decide)) ∈
        [Json.num (.integer 9007199254740993 (by decide)), .num (.integer 7 (by decide))]) := by
  have hdigits : AllDigits "09007199254740992".toList := by decide
  have hwrites : Numeral.Writes "+09007199254740992".toList 9007199254740992 :=
    .plus hdigits (by decide)
  have haccount : accounts.lookup "account" =
      some (.num (.integer 9007199254740994 (by decide))) := by decide +kernel
  have hvisible : accounts.lookup "visible" = some (.arr
      [.num (.integer 9007199254740993 (by decide)), .num (.integer 7 (by decide))]) := by
    decide +kernel
  have hintegers : ∀ v ∈ [Json.num (.integer 9007199254740993 (by decide)),
      .num (.integer 7 (by decide))], ∃ n range, v = .num (.integer n range) := by
    simp [InRange]
  refine ⟨hwrites, haccount, hvisible, ?_, ?_⟩
  · have happart : rounded 9007199254740994 ≠ rounded 9007199254740992 := by decide +kernel
    exact ((integers_compared (by decide) hwrites "account" accounts).1 _ _ haccount).1.2
      (.inr happart)
  · rw [(integers_compared (by decide) hwrites "visible" accounts).2 _ hintegers hvisible]
    rintro (hmem | happart)
    · revert hmem
      decide
    · exact happart 9007199254740993 (by decide) List.mem_cons_self (by decide +kernel)

/-- Of two neighbours the one is taken for the other. -/
theorem neighbour_taken_for_equal :
    Numeral.Writes "9007199254740992".toList 9007199254740992 ∧
    (Scope.root (.ofJson (.obj [("id", .num (.integer 9007199254740993 (by decide)))]))).lookup "id" =
      some (.num (.integer 9007199254740993 (by decide))) ∧
    ¬ (Condition.holds ⟨"id", .equals, "9007199254740992"⟩
        (.root (.ofJson (.obj [("id", .num (.integer 9007199254740993 (by decide)))]))) ↔
      (9007199254740993 : Int) = 9007199254740992) :=
  ⟨Numeral.writes_toString 9007199254740992, by decide +kernel, by decide +kernel⟩

end Screens.Condition
