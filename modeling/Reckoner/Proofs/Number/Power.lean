import Mathlib.Algebra.Group.Int.Defs
import Mathlib.Algebra.Group.Nat.Defs
import Reckoner.Number.Power

set_option autoImplicit false

/-!
Powers are those of the integers, also where they are not computed by multiplication.
-/
namespace Reckoner

theorem power_eq (base : Int) (exponent : Nat) : power base exponent = base ^ exponent := by
  have magnitude : (if base.natAbs ≤ 1 ∧ 0 < exponent then base.natAbs
      else Nat.pow base.natAbs exponent) = base.natAbs ^ exponent := by
    split
    · next small =>
      have cases : base.natAbs = 0 ∨ base.natAbs = 1 := by omega
      rcases cases with vanishes | one
      · rw [vanishes, Nat.zero_pow small.2]
      · rw [one, Nat.one_pow]
    · rfl
  simp only [power, magnitude, Int.natCast_pow]
  by_cases negative : base < 0
  · have opposite : base = -(base.natAbs : Int) := by omega
    conv => rhs; rw [opposite, Int.neg_pow]
    rcases Nat.mod_two_eq_zero_or_one exponent with even | odd
    · simp [even]
    · simp [negative, odd]
  · have same : (base.natAbs : Int) = base := by omega
    simp [negative, same]

end Reckoner
