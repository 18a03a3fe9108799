import Reckoner.Proofs.Number.Canonical
import Reckoner.Proofs.Operand

set_option autoImplicit false

/-!
Integers that are written and read again. The decimal of an integer is a literal, and the literal
stands for that integer, whatever its sign and however many digits it has.
-/
namespace Reckoner

namespace Decimal

theorem ofNat_ne_nil (n : Nat) : ofNat n ≠ [] := by
  rw [ofNat_eq]
  exact Nat.toDigits_ne_nil

theorem value_ofNat (n : Nat) : value (ofNat n) = n := by
  rw [ofNat_eq]
  exact Nat.ofDigitChars_toDigits (by decide) (by decide)

/-- An integer is written as the digits of its magnitude, behind a minus sign if it is negative. -/
theorem ofInt_eq_append (n : Int) :
    ofInt n = (if n < 0 then ['-'] else []) ++ ofNat n.natAbs := by
  unfold ofInt
  split
  · rfl
  · rfl

theorem signed_ofInt (n : Int) : Text.Signed Text.digit (ofInt n) := by
  refine ⟨if n < 0 then ['-'] else [], ofNat n.natAbs, ?_, ofNat_ne_nil _, ofNat_digits _,
    ofInt_eq_append n⟩
  split
  · exact .inr (.inr rfl)
  · exact .inl rfl

end Decimal

theorem literalValue_ofInt (n : Int) : literalValue (Decimal.ofInt n) = n := by
  have digits := Decimal.ofNat_digits n.natAbs
  rw [Decimal.ofInt_eq_append]
  by_cases negative : n < 0
  · rw [if_pos negative, literalValue_append _ _ (.inr (.inr rfl)) digits, if_pos rfl,
      Decimal.value_ofNat]
    omega
  · rw [if_neg negative, literalValue_append _ _ (.inl rfl) digits, if_neg (by simp),
      Decimal.value_ofNat]
    omega

end Reckoner
