import Reckoner.Evaluation
import Reckoner.Proofs.Number.Decimal
import Reckoner.Proofs.Number.Power
import Reckoner.Proofs.Operand
import Reckoner.Proofs.Outcome

set_option autoImplicit false

/-!
Expressions as trees, with two readings. The value of a tree is that of mathematics, within the
limits on powers. Its outcome also says which fault comes first, if it has no value.
-/
namespace Reckoner

/-- An expression: operands as they are written, and operators with one operand or with two. -/
inductive Tree where
  | operand (text : Text)
  | unary (symbol : Operator) (right : Tree)
  | binary (symbol : Operator) (left right : Tree)
  deriving Repr, DecidableEq

/-- The value of an operator on integers. Quotients are cut off toward zero, and powers have a
value only within the limits. -/
def Operator.value (limits : Limits) (left right : Int) : Operator → Option Int
  | .add => some (left + right)
  | .subtract => some (left - right)
  | .multiply => some (left * right)
  | .divide => if right = 0 then none else some (left.tdiv right)
  | .power =>
      if 0 ≤ right ∧ right ≤ limits.maxExponent ∧
          right * bitLength left ≤ limits.maxResultBits then
        some (left ^ right.toNat)
      else none

namespace Tree

/-- The operands are names and numerals without signs, and only signs have a single operand. -/
def Proper : Tree → Prop
  | .operand text =>
      text ≠ [] ∧ ((∀ c ∈ text, Text.digit c = true) ∨ (∀ c ∈ text, Text.letter c = true))
  | .unary symbol right => symbol.isSign = true ∧ right.Proper
  | .binary _ left right => left.Proper ∧ right.Proper

def Plain : Tree → Prop
  | .operand _ => True
  | .unary _ _ => False
  | .binary _ left right => left.Plain ∧ right.Plain

section

variable (limits : Limits) (memory : Variables)

/-- The value of a proper tree: that of its names and numerals, with each operator applied to
the values of its operands. A sign with a single operand has zero before it. -/
def value : Tree → Option Int
  | .operand text =>
      if text.all Text.digit then some (Decimal.value text) else memory.get? text
  | .unary symbol right => do
      let right ← right.value
      if symbol.isSign then symbol.value limits 0 right else none
  | .binary symbol left right => do
      let left ← left.value
      let right ← right.value
      symbol.value limits left right

/-- What a tree is to the operator above it. The operators of the left operand come first, then
those of the right one. Then the right operand is looked up if it is not computed yet, then the
left one, and the operator is applied. -/
def compute : Tree → Except Fault Operand
  | .operand text => .ok (.written text)
  | .unary symbol right => do
      let right ← right.compute
      let right ← right.resolve memory
      let left ← if symbol.isSign then .ok 0 else .error (.invalidExpression .missingOperand)
      return .computed (← symbol.apply limits left right)
  | .binary symbol left right => do
      let left ← left.compute
      let right ← right.compute
      let right ← right.resolve memory
      let left ← left.resolve memory
      return .computed (← symbol.apply limits left right)

/-- The value of a tree, or the first fault on the way to it. -/
def outcome (tree : Tree) : Except Fault Int := do
  (← tree.compute limits memory).resolve memory

end

end Tree

/-- An operator applied by the calculator has its value, and is refused where it has none. -/
theorem Operator.apply_eq_ok_iff (limits : Limits) (left right result : Int) (symbol : Operator) :
    symbol.apply limits left right = .ok result ↔
      symbol.value limits left right = some result := by
  cases symbol with
  | add => simp [apply, value]
  | subtract => simp [apply, value]
  | multiply => simp [apply, value]
  | divide =>
      by_cases vanishes : right = 0
      · simp [apply, value, quotient, vanishes]
      · simp [apply, value, quotient, vanishes]
  | power =>
      simp only [apply, value, guardedPower]
      by_cases range : right < 0 ∨ limits.maxExponent < right
      · have outside : ¬ (0 ≤ right ∧ right ≤ limits.maxExponent ∧
            right * bitLength left ≤ limits.maxResultBits) := by omega
        simp [range, outside]
      · have natural : (right.toNat : Int) = right := by omega
        by_cases size : limits.maxResultBits < right * bitLength left
        · have outside : ¬ (0 ≤ right ∧ right ≤ limits.maxExponent ∧
              right * bitLength left ≤ limits.maxResultBits) := by omega
          simp [range, outside, natural, size]
        · have inside : 0 ≤ right ∧ right ≤ limits.maxExponent ∧
              right * bitLength left ≤ limits.maxResultBits := by omega
          simp [range, inside, natural, size, power_eq]

namespace Tree

variable {limits : Limits} {memory : Variables}

theorem compute_unary {sign : Operator} (isSign : sign.isSign = true) (right : Tree) :
    (unary sign right).compute limits memory =
      (binary sign (operand ['0']) right).compute limits memory := by
  have zero : (Operand.written ['0']).resolve memory = .ok 0 :=
    Operand.resolve_literal memory rfl
  simp only [compute, isSign, ↓reduceIte, ok_bind, zero]

theorem outcome_unary_eq_ok_iff (symbol : Operator) (right : Tree) (result : Int)
    (sign : symbol.isSign = true) :
    (unary symbol right).outcome limits memory = .ok result ↔
      ∃ y, right.outcome limits memory = .ok y ∧ symbol.apply limits 0 y = .ok result := by
  simp only [outcome, compute, sign, ↓reduceIte, bind_assoc, ok_bind, pure_eq_ok,
    Operand.resolve_computed, bind_eq_ok_iff, Except.ok.injEq, exists_eq_right]
  constructor
  · intro stages
    obtain ⟨only, computed, y, resolved, applied⟩ := stages
    exact ⟨y, ⟨only, computed, resolved⟩, applied⟩
  · intro stages
    obtain ⟨y, ⟨only, computed, resolved⟩, applied⟩ := stages
    exact ⟨only, computed, y, resolved, applied⟩

theorem outcome_binary_eq_ok_iff (symbol : Operator) (left right : Tree) (result : Int) :
    (binary symbol left right).outcome limits memory = .ok result ↔
      ∃ x y, left.outcome limits memory = .ok x ∧ right.outcome limits memory = .ok y ∧
        symbol.apply limits x y = .ok result := by
  simp only [outcome, compute, bind_assoc, ok_bind, pure_eq_ok, Operand.resolve_computed,
    bind_eq_ok_iff, Except.ok.injEq, exists_eq_right]
  constructor
  · intro stages
    obtain ⟨first, leftComputed, second, rightComputed, y, rightResolved,
      x, leftResolved, applied⟩ := stages
    exact ⟨x, y, ⟨first, leftComputed, leftResolved⟩, ⟨second, rightComputed, rightResolved⟩,
      applied⟩
  · intro stages
    obtain ⟨x, y, ⟨first, leftComputed, leftResolved⟩, ⟨second, rightComputed, rightResolved⟩,
      applied⟩ := stages
    exact ⟨first, leftComputed, second, rightComputed, y, rightResolved, x, leftResolved, applied⟩

theorem outcome_operand_eq_ok_iff (text : Text) (result : Int) (proper : (operand text).Proper) :
    (operand text).outcome limits memory = .ok result ↔
      (operand text).value limits memory = some result := by
  obtain ⟨nonempty, digits | letters⟩ := proper
  · have literal : isLiteral text = true :=
      (isLiteral_eq_true_iff text).mpr ⟨[], text, .inl rfl, nonempty, digits, rfl⟩
    have amount : literalValue text = Decimal.value text :=
      literalValue_append [] text (.inl rfl) digits
    have all : text.all Text.digit = true := by simpa using digits
    have resolved := Operand.resolve_literal memory literal
    rw [amount] at resolved
    simp only [outcome, compute, ok_bind, resolved, value, all, ↓reduceIte, Except.ok.injEq,
      Option.some.injEq]
  · have named : isName text = true :=
      (isName_eq_true_iff text).mpr ⟨[], text, .inl rfl, nonempty, letters, rfl⟩
    have other : isLiteral text = false := by
      rw [← Bool.not_eq_true]
      intro literal
      simp [isName_eq_false_of_isLiteral literal] at named
    have mixed : text.all Text.digit = false := by
      rw [← Bool.not_eq_true]
      intro digits
      have literal := (isLiteral_eq_true_iff text).mpr
        ⟨[], text, .inl rfl, nonempty, by simpa using digits, rfl⟩
      simp [literal] at other
    simp only [outcome, compute, ok_bind, value, mixed, Bool.false_eq_true, ↓reduceIte]
    cases found : memory.get? text with
    | none => simp [Operand.resolve_unset named found]
    | some v => simp [Operand.resolve_name named found]

/-- A proper tree has an outcome exactly if it has a value, and then the outcome is its value. -/
theorem outcome_eq_ok_iff (tree : Tree) (proper : tree.Proper) (result : Int) :
    tree.outcome limits memory = .ok result ↔ tree.value limits memory = some result := by
  induction tree generalizing result with
  | operand text => exact outcome_operand_eq_ok_iff text result proper
  | unary symbol right ih =>
      simp only [outcome_unary_eq_ok_iff symbol right result proper.1, ih proper.2,
        Operator.apply_eq_ok_iff, value, proper.1, ↓reduceIte, Option.bind_eq_bind,
        Option.bind_eq_some_iff]
  | binary symbol left right first second =>
      simp only [outcome_binary_eq_ok_iff, first proper.1, second proper.2,
        Operator.apply_eq_ok_iff, value, Option.bind_eq_bind, Option.bind_eq_some_iff,
        exists_and_left]

end Tree

end Reckoner
