import Mathlib.Algebra.Group.Nat.Defs
import Reckoner.Number.Decimal

set_option autoImplicit false

/-!
Decimal texts are the usual ones: writing a number by halves gives the same digits as writing it
digit by digit.
-/
namespace Reckoner.Decimal

theorem padded_succ (level n : Nat) : padded (level + 1) n =
    padded level (n / 10 ^ 2 ^ level) ++ padded level (n % 10 ^ 2 ^ level) := rfl

theorem significant_succ (level n : Nat) : significant (level + 1) n =
    if n / 10 ^ 2 ^ level = 0 then significant level n
    else significant level (n / 10 ^ 2 ^ level) ++ padded level (n % 10 ^ 2 ^ level) := rfl

theorem square (level : Nat) : 10 ^ 2 ^ (level + 1) = 10 ^ 2 ^ level * 10 ^ 2 ^ level := by
  rw [Nat.pow_succ 2 level, Nat.mul_two, Nat.pow_add]

theorem toDigits_padded (level high low : Nat) (positive : 0 < high)
    (bound : low < 10 ^ 2 ^ level) :
    Nat.toDigits 10 high ++ padded level low =
      Nat.toDigits 10 (high * 10 ^ 2 ^ level + low) := by
  induction level generalizing high low with
  | zero =>
      have small : low < 10 := by simpa using bound
      rw [padded, ← Nat.toDigits_of_lt_base small,
        Nat.toDigits_append_toDigits (by decide) positive small]
      simp [Nat.mul_comm]
  | succ level ih =>
      have base : 0 < 10 ^ 2 ^ level := Nat.pow_pos (by decide)
      have left : low / 10 ^ 2 ^ level < 10 ^ 2 ^ level := by
        rw [Nat.div_lt_iff_lt_mul base, ← square]
        exact bound
      have right : low % 10 ^ 2 ^ level < 10 ^ 2 ^ level := Nat.mod_lt low base
      rw [padded_succ, ← List.append_assoc, ih high _ positive left,
        ih _ _ (Nat.add_pos_left (Nat.mul_pos positive base) _) right]
      congr 1
      rw [Nat.add_mul, Nat.mul_assoc, Nat.add_assoc, Nat.div_add_mod', ← square]

theorem significant_eq (level n : Nat) (positive : 0 < n) (bound : n < 10 ^ 2 ^ level) :
    significant level n = Nat.toDigits 10 n := by
  induction level generalizing n with
  | zero =>
      have small : n < 10 := by simpa using bound
      rw [significant, if_neg (Nat.ne_of_gt positive), Nat.toDigits_of_lt_base small]
  | succ level ih =>
      have base : 0 < 10 ^ 2 ^ level := Nat.pow_pos (by decide)
      by_cases low : n / 10 ^ 2 ^ level = 0
      · have small : n < 10 ^ 2 ^ level := Nat.lt_of_div_eq_zero base low
        simpa only [significant_succ, low, ↓reduceIte] using ih n positive small
      · have left : n / 10 ^ 2 ^ level < 10 ^ 2 ^ level := by
          rw [Nat.div_lt_iff_lt_mul base, ← square]
          exact bound
        have high : 0 < n / 10 ^ 2 ^ level := Nat.pos_of_ne_zero low
        have joined := toDigits_padded level _ _ high (Nat.mod_lt n base)
        rw [Nat.div_add_mod'] at joined
        simp only [significant_succ, low, ↓reduceIte, ih _ high left, joined]

/-- A number has no more decimal digits than binary ones. -/
theorem lt_level (n : Nat) : n < 10 ^ 2 ^ level n := by
  have digits : n < 2 ^ (n.log2 + 1) := Nat.lt_log2_self
  have count : n.log2 + 1 < 2 ^ level n := Nat.lt_log2_self
  calc n < 2 ^ (n.log2 + 1) := digits
    _ ≤ 2 ^ 2 ^ level n := Nat.pow_le_pow_right (by decide) (by omega)
    _ ≤ 10 ^ 2 ^ level n := Nat.pow_le_pow_left (by decide) _

theorem ofNat_eq (n : Nat) : ofNat n = Nat.toDigits 10 n := by
  unfold ofNat
  split
  · next zero => rw [zero, Nat.toDigits_zero]
  · next nonzero => exact significant_eq (level n) n (by omega) (lt_level n)

theorem ofInt_eq (n : Int) : ofInt n = (toString n).toList := by
  rw [Int.toString_eq_repr, Int.repr_eq_if]
  by_cases negative : n < 0
  · rw [ofInt, if_pos negative, if_neg (by omega), ofNat_eq, String.toList_append,
      Nat.toList_repr, show (-n).toNat = n.natAbs by omega]
    rfl
  · rw [ofInt, if_neg negative, if_pos (by omega), ofNat_eq, Nat.toList_repr,
      show n.toNat = n.natAbs by omega]

end Reckoner.Decimal
