import Mathlib.Algebra.Order.BigOperators.Group.List
import Mathlib.Algebra.Order.Group.Nat
import Reckoner.Proofs.Calculator.Operands
import Reckoner.Proofs.Calculator.Result
import Reckoner.Proofs.Evaluation.Load

set_option autoImplicit false

/-!
Growth of values. The length of a text bounds the count of its tokens and the size of its numerals,
so that the limits and the variables bound the size of every value that an expression comes to.
-/
namespace Reckoner

namespace Token.Settled

variable {tokens : List Token} {text : Text} (settled : Settled tokens text)

include settled

theorem length_text_le {token : Token} (member : token ∈ tokens) :
    token.text.length ≤ text.length := by
  rw [← settled.whole, List.length_flatMap]
  exact List.le_sum_of_mem (List.mem_map_of_mem (f := fun other => other.text.length) member)

theorem length_le : tokens.length ≤ text.length := by
  have occupied : ∀ size ∈ tokens.map fun token => token.text.length, 1 ≤ size := by
    intro size member
    obtain ⟨token, inside, rfl⟩ := List.mem_map.mp member
    exact List.length_pos_iff.mpr (settled.regular token inside).nonempty
  have total := List.length_le_sum_of_one_le _ occupied
  rwa [List.length_map, ← List.length_flatMap, settled.whole] at total

end Token.Settled

namespace Calculator

/-- There are no more tokens to evaluate than the text has characters. -/
theorem length_postOrder_le {text : Text} {sent : List Token}
    (ordered : postOrder text = .ok sent) : sent.length ≤ text.length := by
  obtain ⟨row, -, settled, -, kept⟩ := postOrder_eq_ok ordered
  calc sent.length
      = (row.filter Token.remains).length := kept.length_eq
    _ ≤ row.length := List.length_filter_le _ _
    _ ≤ text.essence.length := settled.length_le
    _ ≤ text.length := List.length_filter_le _ _

variable {memory : Variables} {bits : Int}
variable (small : ∀ name value, memory.get? name = some value → bitLength value ≤ bits)

include small

/-- Numerals have at most four binary digits for each character of the text, and names have the
values of the variables. -/
theorem operandsWithin {text : Text} {sent : List Token} (ordered : postOrder text = .ok sent) :
    Evaluation.OperandsWithin memory (max (4 * text.length) bits) sent := by
  obtain ⟨row, -, settled, -, kept⟩ := postOrder_eq_ok ordered
  intro token member operand value resolved
  have inside : token ∈ row := (List.mem_filter.mp (kept.subset member)).1
  have regular := settled.regular token inside
  rcases (Category.isOperand_eq_true_iff token.category).mp operand with kind | kind
  · rw [regular.resolve_numeral kind memory, Except.ok.injEq] at resolved
    have size := Decimal.bitLength_value_le token.text (regular.digits kind).2
    have part := settled.length_text_le inside
    have essence : text.essence.length ≤ text.length := List.length_filter_le _ _
    rw [← resolved]
    omega
  · have present := (regular.resolve_name_eq_ok_iff kind memory value).mp resolved
    have known := small token.text value present
    omega

theorem expression_room (limits : Limits) {text : Text} {value : Int}
    (evaluated : expression limits memory text = .ok (some value)) :
    bitLength value ≤ text.length * limits.room (max (4 * text.length) bits) := by
  obtain ⟨sent, ordered, evaluated⟩ := (bind_eq_ok_iff _).mp evaluated
  have count : sent.countP Token.remains ≤ text.length :=
    Nat.le_trans List.countP_le_length (length_postOrder_le ordered)
  have positive := limits.room_pos (max (4 * text.length) bits)
  calc (bitLength value : Int)
      ≤ sent.countP Token.remains * limits.room (max (4 * text.length) bits) :=
        Evaluation.evaluate_room (operandsWithin small ordered) evaluated
    _ ≤ text.length * limits.room (max (4 * text.length) bits) :=
        Int.mul_le_mul_of_nonneg_right (Int.ofNat_le.mpr count) (Int.le_of_lt positive)

theorem calculate_room (limits : Limits) {text : Text} (absent : '=' ∉ text) {value : Int}
    {after : Variables} (done : calculate limits memory text = .ok (some value, after)) :
    bitLength value ≤
      limits.maxInputLength * limits.room (max (4 * limits.maxInputLength) bits) := by
  cases occupied : text.isBlank with
  | true =>
      rw [calculate_blank limits memory occupied] at done
      cases done
  | false =>
      by_cases long : limits.maxInputLength < (text.length : Int)
      · rw [calculate_tooLong limits memory occupied long] at done
        cases done
      · have short : (text.length : Int) ≤ limits.maxInputLength := by omega
        rw [calculate_expression limits memory occupied short absent] at done
        obtain ⟨result, evaluated, same⟩ := (bind_eq_ok_iff _).mp done
        obtain ⟨rfl, -⟩ := Prod.mk.inj (Except.ok.inj same)
        have wider : max (4 * (text.length : Int)) bits ≤ max (4 * limits.maxInputLength) bits := by
          omega
        calc (bitLength value : Int)
            ≤ text.length * limits.room (max (4 * text.length) bits) :=
              expression_room small limits evaluated
          _ ≤ limits.maxInputLength * limits.room (max (4 * limits.maxInputLength) bits) :=
              Int.mul_le_mul short (limits.room_le_room wider)
                (Int.le_of_lt (limits.room_pos _)) (by omega)

end Calculator

/-- Values do not outgrow the limits. The value of an expression has at most as many binary digits
as the longest text has room for, and each value on the way, in any row of tokens, has at most as
many as its operands and operators have room for, however they are nested. -/
theorem Calculator.values_bounded (limits : Limits) (memory : Variables) :
    (∀ bits : Int, (∀ name value, memory.get? name = some value → bitLength value ≤ bits) →
      ∀ text value after, '=' ∉ text → calculate limits memory text = .ok (some value, after) →
        bitLength value ≤
          limits.maxInputLength * limits.room (max (4 * limits.maxInputLength) bits)) ∧
    ∀ (bits : Int) (tokens : List Token), Evaluation.OperandsWithin memory bits tokens →
      (∀ front stack value, front <+: tokens →
        Evaluation.run limits memory [] front = .ok stack → .computed value ∈ stack →
          bitLength value ≤ tokens.countP Token.remains * limits.room bits) ∧
      ∀ value, Evaluation.evaluate limits memory tokens = .ok (some value) →
        bitLength value ≤ tokens.countP Token.remains * limits.room bits := by
  constructor
  · intro bits small text value after absent done
    exact calculate_room small limits absent done
  · intro bits tokens within
    constructor
    · intro front stack value starts ran member
      exact Evaluation.run_room within starts ran member (Operand.resolve_computed value)
    · intro value evaluated
      exact Evaluation.evaluate_room within evaluated

/-- A power with as many digits as the limit, which is then multiplied. -/
theorem Calculator.values_bounded_product :
    let limits : Limits := ⟨9, 3, 9⟩
    let memory : Variables := ⟨[(['x'], 7)]⟩
    let text : Text := "x ^ 3 * x".toList
    let row : List Token := [⟨['x'], .name⟩, ⟨['3'], .numeral⟩, ⟨['^'], .operator .power⟩,
      ⟨['x'], .name⟩, ⟨['*'], .operator .multiply⟩]
    (∀ name value, memory.get? name = some value → bitLength value ≤ (3 : Int)) ∧ '=' ∉ text ∧
      calculate limits memory text = .ok (some 2401, memory) ∧
      bitLength 2401 ≤ 9 * limits.room (max (4 * 9) 3) ∧
      Evaluation.OperandsWithin memory 3 row ∧
      Evaluation.run limits memory [] (row.take 4) = .ok [.written ['x'], .computed 343] ∧
      bitLength 343 ≤ 5 * limits.room 3 ∧
      Evaluation.evaluate limits memory row = .ok (some 2401) ∧
      bitLength 2401 ≤ 5 * limits.room 3 := by
  intro limits memory text row
  have small : ∀ name value, memory.get? name = some value → bitLength value ≤ (3 : Int) := by
    intro name value found
    have entry := Table.mem_of_get? found
    simp only [memory, List.mem_singleton, Prod.mk.injEq] at entry
    rw [entry.2]
    decide
  have absent : '=' ∉ text := by decide
  have done : calculate limits memory text = .ok (some 2401, memory) := by decide
  have within : Evaluation.OperandsWithin memory 3 row := by
    intro token member operand value resolved
    have either : token = ⟨['x'], .name⟩ ∨ token = ⟨['3'], .numeral⟩ := by
      simp only [row, List.mem_cons, List.not_mem_nil, or_false] at member
      rcases member with rfl | rfl | rfl | rfl | rfl
      · exact .inl rfl
      · exact .inr rfl
      · cases operand
      · exact .inl rfl
      · cases operand
    rcases either with rfl | rfl
    · have known : (Operand.written ['x']).resolve memory = .ok 7 := by decide
      obtain rfl := Except.ok.inj (known.symm.trans resolved)
      decide
    · have known : (Operand.written ['3']).resolve memory = .ok 3 := by decide
      obtain rfl := Except.ok.inj (known.symm.trans resolved)
      decide
  have ran : Evaluation.run limits memory [] (row.take 4) =
      .ok [.written ['x'], .computed 343] := by decide
  have evaluated : Evaluation.evaluate limits memory row = .ok (some 2401) := by decide
  obtain ⟨lines, rows⟩ := values_bounded limits memory
  obtain ⟨halfway, results⟩ := rows 3 row within
  exact ⟨small, absent, done, lines 3 small text 2401 memory absent done, within, ran,
    halfway (row.take 4) _ 343 (List.take_prefix 4 row) ran (by simp), evaluated,
    results 2401 evaluated⟩

end Reckoner
