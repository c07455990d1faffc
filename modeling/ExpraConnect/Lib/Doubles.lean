import Mathlib.Tactic

/-!
# Integers as double-precision numbers

`roundNat`, `roundInt`: the double that is nearest to an integer, the even one of two. It has 53
significant bits.
-/

namespace ExpraConnect.Lib.Doubles

/-- The double nearest to a natural number. -/
def roundNat (n : ℕ) : ℕ :=
  let unit := 2 ^ (Nat.log2 n - 52)
  let below := n / unit
  let rest := n % unit
  (if unit < 2 * rest ∨ (unit = 2 * rest ∧ below % 2 = 1) then below + 1 else below) * unit

/-- The double nearest to an integer. -/
def roundInt (n : ℤ) : ℤ := n.sign * roundNat n.natAbs

/-- The halves go to the even neighbour. -/
example : roundInt (-(2 ^ 53 + 1)) = -2 ^ 53 ∧ roundInt (2 ^ 53 + 3) = 2 ^ 53 + 4 := by
  decide +kernel

end ExpraConnect.Lib.Doubles
