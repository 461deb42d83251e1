/-! Powers of natural numbers. -/
namespace Screens

/-- `base` multiplied by itself, `n` factors in all. -/
def power (base n : Nat) : Nat := Nat.pow base n

theorem power_zero (base : Nat) : power base 0 = 1 := rfl

theorem power_succ (base n : Nat) : power base (n + 1) = power base n * base := rfl

theorem power_pos {base : Nat} (h : 0 < base) (n : Nat) : 0 < power base n :=
  Nat.pow_pos h

end Screens
