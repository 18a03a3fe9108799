import Reckoner.Proofs.Number.Numeral
import Reckoner.Proofs.Number.Power

set_option autoImplicit false

/-!
Sizes of integers. What an operation can make of sizes: a sum has at most one digit more than its
larger part, a product no more than its factors have together, a quotient no more than its dividend.
The size of a power is between its estimate and half of it.
-/
namespace Reckoner

theorem bitLength_le_iff (n : Int) (bits : Nat) : bitLength n ≤ bits ↔ n.natAbs < 2 ^ bits := by
  by_cases zero : n = 0
  · subst zero
    exact iff_of_true (Nat.zero_le bits) (Nat.two_pow_pos bits)
  · have magnitude : n.natAbs ≠ 0 := Int.natAbs_ne_zero.mpr zero
    have logarithm := Nat.log2_lt (k := bits) magnitude
    rw [bitLength, if_neg zero]
    omega

theorem natAbs_lt_two_pow (n : Int) : n.natAbs < 2 ^ bitLength n :=
  (bitLength_le_iff n _).mp (Nat.le_refl _)

theorem lt_bitLength_iff (n : Int) (bits : Nat) : bits < bitLength n ↔ 2 ^ bits ≤ n.natAbs := by
  have small := bitLength_le_iff n bits
  omega

theorem bitLength_le_of_natAbs_le {n other : Int} (smaller : n.natAbs ≤ other.natAbs) :
    bitLength n ≤ bitLength other :=
  (bitLength_le_iff n _).mpr (Nat.lt_of_le_of_lt smaller (natAbs_lt_two_pow other))

theorem bitLength_neg (n : Int) : bitLength (-n) = bitLength n := by
  simp [bitLength]

theorem bitLength_add_le (left right : Int) :
    bitLength (left + right) ≤ max (bitLength left) (bitLength right) + 1 := by
  generalize larger : max (bitLength left) (bitLength right) = bits
  have first : left.natAbs < 2 ^ bits := (bitLength_le_iff left bits).mp (by omega)
  have second : right.natAbs < 2 ^ bits := (bitLength_le_iff right bits).mp (by omega)
  have sum := Int.natAbs_add_le left right
  rw [bitLength_le_iff, Nat.pow_succ]
  omega

theorem bitLength_sub_le (left right : Int) :
    bitLength (left - right) ≤ max (bitLength left) (bitLength right) + 1 := by
  have bound := bitLength_add_le left (-right)
  rwa [bitLength_neg, ← Int.sub_eq_add_neg] at bound

theorem bitLength_mul_le (left right : Int) :
    bitLength (left * right) ≤ bitLength left + bitLength right := by
  rw [bitLength_le_iff, Int.natAbs_mul, Nat.pow_add]
  exact Nat.mul_lt_mul'' (natAbs_lt_two_pow left) (natAbs_lt_two_pow right)

theorem bitLength_tdiv_le (dividend divisor : Int) :
    bitLength (dividend.tdiv divisor) ≤ bitLength dividend := by
  apply bitLength_le_of_natAbs_le
  rw [Int.natAbs_tdiv]
  exact Nat.div_le_self dividend.natAbs divisor.natAbs

/-- A power has no more digits than the estimate, except that the empty power has one. -/
theorem bitLength_pow_le (base : Int) (exponent : Nat) :
    bitLength (base ^ exponent) ≤ max 1 (exponent * bitLength base) := by
  rw [bitLength_le_iff, Int.natAbs_pow]
  cases exponent with
  | zero => simp
  | succ previous =>
      have nonzero : previous + 1 ≠ 0 := Nat.succ_ne_zero previous
      calc base.natAbs ^ (previous + 1)
          < (2 ^ bitLength base) ^ (previous + 1) :=
            Nat.pow_lt_pow_left (natAbs_lt_two_pow base) nonzero
        _ = 2 ^ ((previous + 1) * bitLength base) := by rw [← Nat.pow_mul, Nat.mul_comm]
        _ ≤ 2 ^ max 1 ((previous + 1) * bitLength base) :=
            Nat.pow_le_pow_right (by decide) (Nat.le_max_right _ _)

/-- A power has more digits than the exponent times one digit less than the base has. -/
theorem lt_bitLength_pow {base : Int} (nonzero : base ≠ 0) (exponent : Nat) :
    exponent * (bitLength base - 1) < bitLength (base ^ exponent) := by
  have occupied : 0 < bitLength base := by
    rw [lt_bitLength_iff]
    omega
  have lead : 2 ^ (bitLength base - 1) ≤ base.natAbs := by
    rw [← lt_bitLength_iff]
    omega
  rw [lt_bitLength_iff, Int.natAbs_pow]
  calc 2 ^ (exponent * (bitLength base - 1))
      = (2 ^ (bitLength base - 1)) ^ exponent := by rw [← Nat.pow_mul, Nat.mul_comm]
    _ ≤ base.natAbs ^ exponent := Nat.pow_le_pow_left lead exponent

/-- The estimate of a power is below twice its size, unless the base is no larger than one. -/
theorem estimate_lt_twice {base : Int} (large : 2 ≤ base.natAbs) (exponent : Nat) :
    exponent * bitLength base < 2 * bitLength (base ^ exponent) := by
  have digits : 1 < bitLength base := (lt_bitLength_iff base 1).mpr large
  have halves : bitLength base ≤ 2 * (bitLength base - 1) := by omega
  have nonzero : base ≠ 0 := by omega
  have power := lt_bitLength_pow nonzero exponent
  calc exponent * bitLength base
      ≤ exponent * (2 * (bitLength base - 1)) := Nat.mul_le_mul_left exponent halves
    _ = 2 * (exponent * (bitLength base - 1)) := Nat.mul_left_comm exponent 2 _
    _ < 2 * bitLength (base ^ exponent) := by omega

/-- A decimal digit is worth less than four binary ones. -/
theorem Decimal.bitLength_value_le (digits : Text)
    (uniform : ∀ c ∈ digits, Text.digit c = true) :
    bitLength (value digits) ≤ 4 * digits.length := by
  rw [bitLength_le_iff, Int.natAbs_natCast]
  calc value digits
      < 10 ^ digits.length := value_lt digits uniform
    _ ≤ (2 ^ 4) ^ digits.length := Nat.pow_le_pow_left (by decide) digits.length
    _ = 2 ^ (4 * digits.length) := by rw [← Nat.pow_mul]

end Reckoner
