import Reckoner.Proofs.Evaluation
import Reckoner.Proofs.Evaluation.Load

set_option autoImplicit false

/-!
Estimates of powers. A power is refused by an estimate of its size, and the size of the operands of
a row bounds every estimate that the row can come to.
-/
namespace Reckoner

/-- If the fault is the estimate of a power, the estimate is at most the bound. -/
def Fault.EstimateWithin (bound : Int) (fault : Fault) : Prop :=
  ∀ bits : Nat, fault = .invalidExpression (.resultTooLarge bits) → bits ≤ bound

theorem Fault.OfOperand.estimateWithin (bound : Int) {fault : Fault} (operand : fault.OfOperand) :
    fault.EstimateWithin bound := by
  intro bits same
  cases operand <;> cases same

/-- An estimate is at most the largest exponent times the size of the base. -/
theorem Operator.apply_estimate (limits : Limits) (symbol : Operator) {left : Int} (right : Int)
    {size : Int} (small : bitLength left ≤ size) :
    Within (Fault.EstimateWithin (limits.maxExponent * size)) (symbol.apply limits left right) := by
  intro fault refused bits estimated
  rcases apply_refused refused with ⟨-, -, rfl⟩ | ⟨-, beyond⟩
  · cases estimated
  · rcases guardedPower_refused beyond with ⟨rfl, -⟩ | ⟨rfl, natural, range, -⟩
    · cases estimated
    · cases estimated
      rw [estimate_natural natural]
      exact Int.mul_le_mul range small (Int.natCast_nonneg _) (by omega)

namespace Evaluation

variable {limits : Limits} {memory : Variables}

theorem bitLength_left_le {symbol : Operator} {stack rest below : Stack} {left right size : Int}
    (positive : 0 ≤ size)
    (small : ∀ operand ∈ stack, ∀ value, operand.resolve memory = .ok value →
      bitLength value ≤ size)
    (popped : pop memory stack = .ok (right, rest))
    (taken : popLeft symbol memory rest = .ok (left, below)) : bitLength left ≤ size := by
  cases stack with
  | nil => cases popped
  | cons second others =>
      simp only [pop, bind_eq_ok_iff, pure_eq_ok, Except.ok.injEq, Prod.mk.injEq] at popped
      obtain ⟨-, -, -, rfl⟩ := popped
      cases others with
      | nil =>
          cases sign : symbol.isSign with
          | true =>
              simp only [popLeft, sign, ↓reduceIte, popOrZero, Except.ok.injEq,
                Prod.mk.injEq] at taken
              rw [← taken.1]
              exact positive
          | false => simp [popLeft, sign, pop] at taken
      | cons first below =>
          simp only [popLeft, popOrZero, pop, ite_self, bind_eq_ok_iff, pure_eq_ok,
            Except.ok.injEq, Prod.mk.injEq] at taken
          obtain ⟨value, resolved, rfl, -⟩ := taken
          exact small first (by simp) value resolved

/-- Whatever a row of tokens is refused for, an estimate is within what its operands and operators
have room for. -/
theorem run_estimate {bits : Int} {tokens : List Token}
    (within : OperandsWithin memory bits tokens) {front : List Token} (starts : front <+: tokens) :
    Within
      (Fault.EstimateWithin
        (limits.maxExponent * (tokens.countP Token.remains * limits.room bits)))
      (run limits memory [] front) := by
  induction front using List.reverseRecOn with
  | nil => exact within_ok _
  | append_singleton front token ih =>
      have before : front <+: tokens := (List.prefix_append front [token]).trans starts
      have positive : 0 ≤ tokens.countP Token.remains * limits.room bits :=
        Int.mul_nonneg (Int.natCast_nonneg _) (Int.le_of_lt (limits.room_pos bits))
      rw [run_append]
      refine (ih before).bind fun stack ran => ?_
      rw [run_singleton]
      refine step_within limits memory (fun _ operand => operand.estimateWithin _) ?_
      intro symbol right rest left below _ popped taken
      refine symbol.apply_estimate limits right ?_
      exact bitLength_left_le positive
        (fun operand member value resolved => run_room within before ran member resolved)
        popped taken

end Evaluation

end Reckoner
