import Reckoner.Arithmetic
import Reckoner.Proofs.Number.Size

set_option autoImplicit false

/-!
The arithmetic of the calculator against its descriptions. A quotient is the only integer that
leaves a remainder below the divisor on the side of the dividend. A power is refused exactly beyond
the limits, and what is refused by its estimate has more than half of the digits that are allowed.
-/
namespace Reckoner

/-- What is left of the dividend if the divisor is taken away so many times is smaller than the
divisor, and it is zero or has the sign of the dividend. -/
def Truncates (dividend divisor times : Int) : Prop :=
  let remainder := dividend - divisor * times
  remainder.natAbs < divisor.natAbs ∧ (remainder = 0 ∨ remainder.sign = dividend.sign)

instance (dividend divisor times : Int) : Decidable (Truncates dividend divisor times) :=
  inferInstanceAs (Decidable (_ ∧ _))

namespace Truncates

variable {dividend divisor times other : Int}

theorem tdiv (dividend : Int) (nonzero : divisor ≠ 0) :
    Truncates dividend divisor (dividend.tdiv divisor) := by
  have magnitude : 0 < divisor.natAbs := Int.natAbs_pos.mpr nonzero
  unfold Truncates
  rw [← Int.tmod_def]
  refine ⟨?_, ?_⟩
  · rw [Int.natAbs_tmod]
    exact Nat.mod_lt _ magnitude
  · have sign := Int.sign_tmod dividend divisor
    split at sign
    · exact .inl (Int.sign_eq_zero_iff_zero.mp sign)
    · exact .inr sign

theorem nonneg (truncates : Truncates dividend divisor times) (natural : 0 ≤ dividend) :
    0 ≤ dividend - divisor * times := by
  rcases truncates.2 with exact | sign
  · exact Int.le_of_eq exact.symm
  · rw [← Int.sign_nonneg_iff, sign, Int.sign_nonneg_iff]
    exact natural

theorem nonpos (truncates : Truncates dividend divisor times) (negative : dividend ≤ 0) :
    dividend - divisor * times ≤ 0 := by
  rcases truncates.2 with exact | sign
  · exact Int.le_of_eq exact
  · rw [← Int.sign_nonpos_iff, sign, Int.sign_nonpos_iff]
    exact negative

/-- Two remainders on one side of zero are less than a divisor apart. -/
theorem unique (first : Truncates dividend divisor times)
    (second : Truncates dividend divisor other) : times = other := by
  have below := first.1
  have near := second.1
  have apart : divisor * (other - times) =
      (dividend - divisor * times) - (dividend - divisor * other) := by
    rw [Int.mul_sub]
    omega
  have close : (divisor * (other - times)).natAbs < divisor.natAbs := by
    rw [apart]
    rcases Int.le_total 0 dividend with natural | negative
    · have left := first.nonneg natural
      have right := second.nonneg natural
      omega
    · have left := first.nonpos negative
      have right := second.nonpos negative
      omega
  have vanishes := Int.eq_zero_of_dvd_of_natAbs_lt_natAbs (Int.dvd_mul_right _ _) close
  rcases Int.mul_eq_zero.mp vanishes with zero | same
  · rw [zero] at below
    cases below
  · omega

end Truncates

theorem quotient_zero (dividend : Int) :
    quotient dividend 0 = .error (.invalidExpression .zeroDivisor) := by
  rw [quotient, if_pos rfl]

theorem quotient_nonzero (dividend : Int) {divisor : Int} (nonzero : divisor ≠ 0) :
    quotient dividend divisor = .ok (dividend.tdiv divisor) := by
  rw [quotient, if_neg nonzero]

/-- A quotient cut off toward zero is that of the magnitudes, with the sign that the signs of both
numbers make. -/
theorem tdiv_eq_signed (dividend divisor : Int) :
    (if decide (dividend < 0) = decide (divisor < 0) then
      ((dividend.natAbs / divisor.natAbs : Nat) : Int)
    else -((dividend.natAbs / divisor.natAbs : Nat) : Int)) = dividend.tdiv divisor := by
  have magnitude (n : Int) : ∃ m : Nat, n.natAbs = m ∧
      ((n = m ∧ decide (n < 0) = false) ∨ (n = -(m : Int) ∧ decide (n < 0) = true)) := by
    refine ⟨n.natAbs, rfl, ?_⟩
    by_cases negative : n < 0
    · exact .inr ⟨by omega, decide_eq_true negative⟩
    · exact .inl ⟨by omega, decide_eq_false negative⟩
  obtain ⟨m, first, dividends⟩ := magnitude dividend
  obtain ⟨n, second, divisors⟩ := magnitude divisor
  rw [first, second]
  rcases dividends with ⟨top, left⟩ | ⟨top, left⟩
  · rcases divisors with ⟨bottom, right⟩ | ⟨bottom, right⟩
    · rw [left, right, top, bottom]
      simp only [↓reduceIte, Int.ofNat_tdiv]
    · rw [left, right, top, bottom]
      simp only [Bool.false_eq_true, ↓reduceIte, Int.ofNat_tdiv, Int.tdiv_neg]
  · rcases divisors with ⟨bottom, right⟩ | ⟨bottom, right⟩
    · rw [left, right, top, bottom]
      simp only [Bool.true_eq_false, ↓reduceIte, Int.ofNat_tdiv, Int.neg_tdiv]
    · rw [left, right, top, bottom]
      simp only [↓reduceIte, Int.ofNat_tdiv, Int.neg_tdiv, Int.tdiv_neg, Int.neg_neg]

/-- A quotient may be worked out from the magnitudes and the signs. `Frail.quotient` does so with
every step that could fail, and comes to the same by `Frail.quotient_eq`. -/
theorem quotient_eq_signed (dividend : Int) {divisor : Int} (nonzero : divisor ≠ 0) :
    quotient dividend divisor = .ok
      (if decide (dividend < 0) = decide (divisor < 0) then
        ((dividend.natAbs / divisor.natAbs : Nat) : Int)
      else -((dividend.natAbs / divisor.natAbs : Nat) : Int)) := by
  rw [quotient_nonzero dividend nonzero, tdiv_eq_signed]

/-- Quotients are cut off toward zero. They are refused exactly for the divisor zero, and every
other quotient is the one integer that leaves a remainder below the divisor with the sign of the
dividend. A sign before dividend or divisor goes to the quotient. -/
theorem quotient_exact (dividend divisor : Int) :
    ((∃ flaw, quotient dividend divisor = .error (.invalidExpression flaw)) ↔ divisor = 0) ∧
      (divisor ≠ 0 → ∃ times, quotient dividend divisor = .ok times ∧
        (∀ other, Truncates dividend divisor other ↔ other = times) ∧
        quotient (-dividend) divisor = .ok (-times) ∧
        quotient dividend (-divisor) = .ok (-times)) := by
  refine ⟨⟨?_, ?_⟩, ?_⟩
  · intro refusal
    obtain ⟨flaw, refused⟩ := refusal
    by_cases zero : divisor = 0
    · exact zero
    · rw [quotient_nonzero dividend zero] at refused
      cases refused
  · intro zero
    rw [zero]
    exact ⟨.zeroDivisor, quotient_zero dividend⟩
  · intro nonzero
    have opposite : -divisor ≠ 0 := Int.neg_ne_zero.mpr nonzero
    have truncates := Truncates.tdiv dividend nonzero
    refine ⟨dividend.tdiv divisor, quotient_nonzero dividend nonzero, ?_, ?_, ?_⟩
    · intro other
      constructor
      · intro another
        exact another.unique truncates
      · intro same
        rw [same]
        exact truncates
    · rw [quotient_nonzero _ nonzero, Int.neg_tdiv]
    · rw [quotient_nonzero _ opposite, Int.tdiv_neg]

/-- Below zero the quotient is above the fraction. -/
theorem quotient_exact_negative :
    (2 : Int) ≠ 0 ∧ ¬ Truncates (-7) 2 (-4) ∧ quotient (-7) 2 = .ok (-3) ∧
      quotient 7 2 = .ok 3 := by
  have nonzero : (2 : Int) ≠ 0 := by decide
  obtain ⟨times, divided, only, opposite, -⟩ := (quotient_exact (-7) 2).2 nonzero
  have same : -3 = times := (only (-3)).mp (by decide)
  subst same
  refine ⟨nonzero, ?_, divided, opposite⟩
  intro other
  cases (only (-4)).mp other

/-- The power is beyond the limits: the exponent is out of range, or the estimate is too large. -/
def Limits.Exclude (limits : Limits) (base exponent : Int) : Prop :=
  exponent < 0 ∨ limits.maxExponent < exponent ∨
    limits.maxResultBits < exponent * bitLength base

instance (limits : Limits) (base exponent : Int) : Decidable (limits.Exclude base exponent) :=
  inferInstanceAs (Decidable (_ ∨ _ ∨ _))

section Power

variable {limits : Limits} {base exponent : Int}

theorem estimate_natural (natural : 0 ≤ exponent) :
    ((exponent.toNat * bitLength base : Nat) : Int) = exponent * bitLength base := by
  rw [Int.natCast_mul, Int.toNat_of_nonneg natural]

theorem guardedPower_excluded (excluded : limits.Exclude base exponent) :
    ∃ flaw, guardedPower limits base exponent = .error (.invalidExpression flaw) := by
  by_cases outside : exponent < 0 ∨ limits.maxExponent < exponent
  · exact ⟨.exponentOutOfRange exponent, if_pos outside⟩
  · have natural : 0 ≤ exponent := by omega
    have large : limits.maxResultBits < (exponent.toNat * bitLength base : Nat) := by
      rw [estimate_natural natural]
      rcases excluded with negative | above | large
      · exact absurd (.inl negative) outside
      · exact absurd (.inr above) outside
      · exact large
    refine ⟨.resultTooLarge (exponent.toNat * bitLength base), ?_⟩
    simp only [guardedPower, outside, large, ↓reduceIte]

variable (admitted : ¬ limits.Exclude base exponent)

include admitted

theorem Limits.bounds_of_not_exclude : 0 ≤ exponent ∧ exponent ≤ limits.maxExponent ∧
    (exponent.toNat * bitLength base : Nat) ≤ limits.maxResultBits := by
  simp only [Exclude, not_or] at admitted
  have natural : 0 ≤ exponent := by omega
  rw [estimate_natural natural]
  omega

theorem guardedPower_admitted :
    guardedPower limits base exponent = .ok (base ^ exponent.toNat) := by
  have bounds := Limits.bounds_of_not_exclude admitted
  have inside : ¬ (exponent < 0 ∨ limits.maxExponent < exponent) := by omega
  have small : ¬ limits.maxResultBits < (exponent.toNat * bitLength base : Nat) := by omega
  simp only [guardedPower, inside, small, ↓reduceIte, power_eq]

theorem bitLength_pow_admitted :
    bitLength (base ^ exponent.toNat) ≤ max 1 limits.maxResultBits := by
  have bounds := Limits.bounds_of_not_exclude admitted
  have size := bitLength_pow_le base exponent.toNat
  omega

end Power

theorem guardedPower_refused {limits : Limits} {base exponent : Int} {fault : Fault}
    (refused : guardedPower limits base exponent = .error fault) :
    (fault = .invalidExpression (.exponentOutOfRange exponent) ∧
        (exponent < 0 ∨ limits.maxExponent < exponent)) ∨
      (fault = .invalidExpression (.resultTooLarge (exponent.toNat * bitLength base)) ∧
        0 ≤ exponent ∧ exponent ≤ limits.maxExponent ∧
        limits.maxResultBits < exponent * bitLength base) := by
  unfold guardedPower at refused
  split at refused
  · next outside => exact .inl ⟨(Except.error.inj refused).symm, outside⟩
  · next inside =>
      have natural : 0 ≤ exponent := by omega
      dsimp only at refused
      rw [estimate_natural natural] at refused
      split at refused
      · next large =>
          exact .inr ⟨(Except.error.inj refused).symm, natural, by omega, large⟩
      · cases refused

theorem guardedPower_refused_iff (limits : Limits) (base exponent : Int) :
    (∃ flaw, guardedPower limits base exponent = .error (.invalidExpression flaw)) ↔
      limits.Exclude base exponent := by
  refine ⟨?_, guardedPower_excluded⟩
  intro refusal
  obtain ⟨flaw, refused⟩ := refusal
  rcases guardedPower_refused refused with ⟨-, negative | above⟩ | ⟨-, -, -, large⟩
  · exact .inl negative
  · exact .inr (.inl above)
  · exact .inr (.inr large)

theorem guardedPower_flaw {limits : Limits} {base exponent : Int} {fault : Fault}
    (refused : guardedPower limits base exponent = .error fault) :
    ∃ flaw, fault = .invalidExpression flaw := by
  rcases guardedPower_refused refused with ⟨same, -⟩ | ⟨same, -⟩
  · exact ⟨_, same⟩
  · exact ⟨_, same⟩

theorem Operator.apply_refused {limits : Limits} {symbol : Operator} {left right : Int}
    {fault : Fault} (refused : symbol.apply limits left right = .error fault) :
    (symbol = .divide ∧ right = 0 ∧ fault = .invalidExpression .zeroDivisor) ∨
      (symbol = .power ∧ guardedPower limits left right = .error fault) := by
  cases symbol with
  | add => cases refused
  | subtract => cases refused
  | multiply => cases refused
  | divide =>
      by_cases zero : right = 0
      · rw [apply, zero, quotient_zero] at refused
        exact .inl ⟨rfl, zero, (Except.error.inj refused).symm⟩
      · rw [apply, quotient_nonzero left zero] at refused
        cases refused
  | power => exact .inr ⟨rfl, refused⟩

/-- Powers are refused exactly beyond the limits, and computed exactly within them, where they have
no more digits than the limit allows. The estimate does not refuse much else: a power that it
refuses has more than half as many digits as the limit allows, unless the base is no larger than
one. -/
theorem guardedPower_exact (limits : Limits) (base exponent : Int) :
    ((∃ flaw, guardedPower limits base exponent = .error (.invalidExpression flaw)) ↔
        limits.Exclude base exponent) ∧
      (¬ limits.Exclude base exponent →
        guardedPower limits base exponent = .ok (base ^ exponent.toNat) ∧
          bitLength (base ^ exponent.toNat) ≤ max 1 limits.maxResultBits) ∧
      (0 ≤ exponent → exponent ≤ limits.maxExponent → 2 ≤ base.natAbs →
        (∃ flaw, guardedPower limits base exponent = .error (.invalidExpression flaw)) →
        limits.maxResultBits < 2 * bitLength (base ^ exponent.toNat)) := by
  refine ⟨guardedPower_refused_iff limits base exponent, ?_, ?_⟩
  · intro admitted
    exact ⟨guardedPower_admitted admitted, bitLength_pow_admitted admitted⟩
  · intro natural range large refusal
    have estimate : limits.maxResultBits < exponent * bitLength base := by
      have excluded := (guardedPower_refused_iff limits base exponent).mp refusal
      rcases excluded with negative | above | estimate
      · omega
      · omega
      · exact estimate
    have twice := estimate_lt_twice large exponent.toNat
    rw [← estimate_natural natural] at estimate
    omega

/-- Two to the fourth has five digits and an estimate of eight. -/
theorem guardedPower_exact_two :
    let limits : Limits := ⟨10000, 100000, 7⟩
    limits.Exclude 2 4 ∧ ¬ limits.Exclude (-2) 3 ∧ limits.maxResultBits < 2 * bitLength (2 ^ 4) ∧
      guardedPower limits (-2) 3 = .ok (-8) := by
  intro limits
  have excluded : limits.Exclude 2 4 := by decide
  have admitted : ¬ limits.Exclude (-2) 3 := by decide
  obtain ⟨refused, -, tight⟩ := guardedPower_exact limits 2 4
  have small := (guardedPower_exact limits (-2) 3).2.1 admitted
  exact ⟨excluded, admitted, tight (by decide) (by decide) (by decide) (refused.mpr excluded),
    small.1⟩

/-- Zero to the power zero is one, whatever the other limits. -/
example : guardedPower ⟨0, 0, 0⟩ 0 0 = .ok 1 := by decide

end Reckoner
