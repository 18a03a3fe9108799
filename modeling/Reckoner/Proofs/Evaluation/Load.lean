import Reckoner.Proofs.Evaluation.Stack
import Reckoner.Proofs.Expression.Tree
import Reckoner.Proofs.Number.Size

set_option autoImplicit false

/-!
Sizes on the stack. Each operand and operator of a row adds at most one unit to what the operands on
the stack count for, whatever lies there, so that a value has at most one unit for each of them.
-/
namespace Reckoner

/-- What one operand or operator can bring, where operands have at most the given size. -/
def Limits.room (limits : Limits) (bits : Int) : Int := max 1 (max limits.maxResultBits bits)

theorem Limits.room_pos (limits : Limits) (bits : Int) : 0 < limits.room bits := by
  rw [room]
  omega

theorem Limits.room_le_room (limits : Limits) {bits wider : Int} (more : bits ≤ wider) :
    limits.room bits ≤ limits.room wider := by
  rw [room, room]
  omega

/-- The operands of the row that have a value have one of at most the given size. -/
def Evaluation.OperandsWithin (memory : Variables) (bits : Int) (tokens : List Token) : Prop :=
  ∀ token ∈ tokens, token.category.isOperand = true →
    ∀ value, (Operand.written token.text).resolve memory = .ok value → bitLength value ≤ bits

/-- What an operand counts for: its size if it is computed, and else what a token can bring. -/
def Operand.load (unit : Nat) : Operand → Nat
  | .written _ => unit
  | .computed value => bitLength value

@[simp] theorem Operand.load_written (unit : Nat) (text : Text) :
    (Operand.written text).load unit = unit := rfl

@[simp] theorem Operand.load_computed (unit : Nat) (value : Int) :
    (Operand.computed value).load unit = bitLength value := rfl

/-- An operand that has a value is no larger than what it counts for. -/
def Operand.Fits (memory : Variables) (unit : Nat) (operand : Operand) : Prop :=
  ∀ value, operand.resolve memory = .ok value → bitLength value ≤ operand.load unit

theorem Operand.fits_computed (memory : Variables) (unit : Nat) (value : Int) :
    (Operand.computed value).Fits memory unit := by
  intro found resolved
  rw [resolve_computed] at resolved
  obtain rfl := Except.ok.inj resolved
  exact Nat.le_refl _

namespace Evaluation.Stack

/-- What the operands on a stack count for together. -/
def load (unit : Nat) : Stack → Nat
  | [] => 0
  | operand :: rest => operand.load unit + load unit rest

@[simp] theorem load_nil (unit : Nat) : load unit [] = 0 := rfl

@[simp] theorem load_cons (unit : Nat) (operand : Operand) (rest : Stack) :
    load unit (operand :: rest) = operand.load unit + load unit rest := rfl

theorem load_le_of_mem (unit : Nat) {operand : Operand} {stack : Stack}
    (member : operand ∈ stack) : operand.load unit ≤ load unit stack := by
  induction stack with
  | nil => cases member
  | cons newest rest ih =>
      rw [load_cons]
      rcases List.mem_cons.mp member with rfl | later
      · omega
      · have below := ih later
        omega

end Evaluation.Stack

section

variable {limits : Limits} {memory : Variables} {unit : Nat}
variable (positive : 1 ≤ unit) (guarded : limits.maxResultBits ≤ unit)

include positive guarded

/-- Powers are within the limits, and the other operators make no more of their operands than one
digit above what these have together. -/
theorem Operator.bitLength_apply_le {symbol : Operator} {left right value : Int}
    (applied : symbol.apply limits left right = .ok value) :
    bitLength value ≤ bitLength left + bitLength right + unit := by
  rw [Operator.apply_eq_ok_iff] at applied
  cases symbol with
  | add =>
      obtain rfl := Option.some.inj applied
      have bound := bitLength_add_le left right
      omega
  | subtract =>
      obtain rfl := Option.some.inj applied
      have bound := bitLength_sub_le left right
      omega
  | multiply =>
      obtain rfl := Option.some.inj applied
      have bound := bitLength_mul_le left right
      omega
  | divide =>
      simp only [Operator.value, Option.ite_none_left_eq_some, Option.some.injEq] at applied
      obtain ⟨-, rfl⟩ := applied
      have bound := bitLength_tdiv_le left right
      omega
  | power =>
      simp only [Operator.value, Option.ite_none_right_eq_some, Option.some.injEq] at applied
      obtain ⟨⟨natural, -, estimate⟩, rfl⟩ := applied
      have bound := bitLength_pow_le left right.toNat
      have small : right.toNat * bitLength left ≤ unit := by
        rw [← Int.toNat_of_nonneg natural] at estimate
        exact_mod_cast Int.le_trans estimate guarded
      omega

namespace Evaluation

/-- A token brings at most one unit, and only if it is an operand or an operator. -/
theorem step_load {stack left : Stack} {token : Token}
    (fits : ∀ operand ∈ stack, operand.Fits memory unit)
    (stepped : step limits memory stack token = .ok left) :
    left.load unit ≤ stack.load unit + unit * if token.remains then 1 else 0 := by
  rcases step_cases stepped with ⟨kind, rfl⟩ | ⟨symbol, kind, operates⟩ | ⟨idle, rfl⟩
  · have used : token.remains = true := by simp [Token.remains, kind]
    rw [Stack.load_cons, Operand.load_written, if_pos used]
    omega
  · have used : token.remains = true := by simp [Token.remains, kind, Category.isOperator]
    rw [if_pos used]
    -- An operand counts for its value or more, so that the operator brings one unit at most.
    cases operates with
    | @alone operand right value sign resolved applied =>
        have result := Operator.bitLength_apply_le positive guarded applied
        have taken := fits operand (by simp) right resolved
        have zero : bitLength 0 = 0 := rfl
        simp only [Stack.load_cons, Stack.load_nil, Operand.load_computed]
        omega
    | @both second first below x y value rightResolved leftResolved applied =>
        have result := Operator.bitLength_apply_le positive guarded applied
        have taken := fits second (by simp) y rightResolved
        have behind := fits first (by simp) x leftResolved
        simp only [Stack.load_cons, Operand.load_computed]
        omega
  · simp [idle]

theorem run_load {tokens : List Token}
    (written : ∀ token ∈ tokens, token.category.isOperand = true →
      (Operand.written token.text).Fits memory unit)
    {stack left : Stack} (fits : ∀ operand ∈ stack, operand.Fits memory unit)
    (ran : run limits memory stack tokens = .ok left) :
    left.load unit ≤ stack.load unit + unit * tokens.countP Token.remains := by
  induction tokens generalizing stack with
  | nil =>
      cases ran
      simp
  | cons token rest ih =>
      rw [List.forall_mem_cons] at written
      rw [run_cons, bind_eq_ok_iff] at ran
      obtain ⟨middle, stepped, later⟩ := ran
      have fitting := step_forall (Operand.fits_computed memory unit) written.1 fits stepped
      have first := step_load positive guarded fits stepped
      have others := ih written.2 fitting later
      rw [List.countP_cons, Nat.mul_add]
      omega

theorem run_bitLength_le {tokens : List Token}
    (written : ∀ token ∈ tokens, token.category.isOperand = true →
      (Operand.written token.text).Fits memory unit)
    {stack : Stack} (ran : run limits memory [] tokens = .ok stack)
    {operand : Operand} (member : operand ∈ stack)
    {value : Int} (resolved : operand.resolve memory = .ok value) :
    bitLength value ≤ unit * tokens.countP Token.remains := by
  have none : ∀ operand ∈ ([] : Stack), operand.Fits memory unit := List.forall_mem_nil _
  have fits := run_forall (Operand.fits_computed memory unit) written none ran operand member
  have total := run_load positive guarded written none ran
  rw [Stack.load_nil, Nat.zero_add] at total
  calc bitLength value
      ≤ operand.load unit := fits value resolved
    _ ≤ stack.load unit := Stack.load_le_of_mem unit member
    _ ≤ unit * tokens.countP Token.remains := total

end Evaluation

end

namespace Evaluation

variable {limits : Limits} {memory : Variables} {bits : Int} {tokens : List Token}
variable (within : OperandsWithin memory bits tokens)

include within

/-- The bound holds at any time, by the number of all operands and operators of the row. -/
theorem run_room {front : List Token} (starts : front <+: tokens) {stack : Stack}
    (ran : run limits memory [] front = .ok stack) {operand : Operand} (member : operand ∈ stack)
    {value : Int} (resolved : operand.resolve memory = .ok value) :
    bitLength value ≤ tokens.countP Token.remains * limits.room bits := by
  obtain ⟨unit, same⟩ : ∃ unit : Nat, limits.room bits = unit :=
    Int.eq_ofNat_of_zero_le (Int.le_of_lt (limits.room_pos bits))
  have bounds : 1 ≤ unit ∧ limits.maxResultBits ≤ unit ∧ bits ≤ unit := by
    rw [Limits.room] at same
    omega
  have written : ∀ token ∈ front, token.category.isOperand = true →
      (Operand.written token.text).Fits memory unit := by
    intro token member kind value resolved
    have small := within token (starts.subset member) kind value resolved
    rw [Operand.load_written]
    omega
  have now := run_bitLength_le bounds.1 bounds.2.1 written ran member resolved
  have count : front.countP Token.remains ≤ tokens.countP Token.remains := starts.countP_le
  rw [same]
  calc (bitLength value : Int)
      ≤ (unit * front.countP Token.remains : Nat) := Int.ofNat_le.mpr now
    _ ≤ (tokens.countP Token.remains * unit : Nat) := by
        rw [Nat.mul_comm unit]
        exact Int.ofNat_le.mpr (Nat.mul_le_mul_right unit count)
    _ = tokens.countP Token.remains * unit := by rw [Int.natCast_mul]

theorem evaluate_room {value : Int} (evaluated : evaluate limits memory tokens = .ok (some value)) :
    bitLength value ≤ tokens.countP Token.remains * limits.room bits := by
  obtain ⟨stack, ran, found⟩ := (bind_eq_ok_iff _).mp evaluated
  cases stack with
  | nil => cases found
  | cons operand rest =>
      obtain ⟨present, resolved, same⟩ := (bind_eq_ok_iff _).mp found
      obtain rfl := Option.some.inj (Except.ok.inj same)
      exact run_room within List.prefix_rfl ran (by simp) resolved

end Evaluation

end Reckoner
