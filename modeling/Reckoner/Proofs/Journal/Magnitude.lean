import Reckoner.Proofs.Calculator.Growth
import Reckoner.Proofs.Evaluation.Estimate
import Reckoner.Proofs.Expression.Spelling
import Reckoner.Proofs.Journal.Event
import Reckoner.Proofs.Session.Effect

set_option autoImplicit false

/-!
Numbers that are told of. The limits, the variables and the length of a text bound each number that
can be told of the text, so that under ample limits none of them is too long to be written.
-/
namespace Reckoner

def Variables.Within (memory : Variables) (bits : Nat) : Prop :=
  ∀ name value, memory.get? name = some value → bitLength value ≤ bits

theorem Variables.within_empty (bits : Nat) : Variables.Within Table.empty bits := by
  intro name value found
  cases found

theorem Variables.Within.set {memory : Variables} {bits : Nat} (within : memory.Within bits)
    (name : Text) {value : Int} (small : bitLength value ≤ bits) :
    Variables.Within (memory.set name value) bits := by
  intro other found present
  rw [Table.get?_set] at present
  split at present
  · obtain rfl := Option.some.inj present
    exact small
  · exact within other found present

theorem bitLength_literalValue_le {text : Text} (literal : Text.Signed Text.digit text) :
    bitLength (literalValue text) ≤ 4 * text.length := by
  obtain ⟨sign, body, signs, -, digits, rfl⟩ := literal
  have size := Decimal.bitLength_value_le body digits
  rw [literalValue_append sign body signs digits, List.length_append]
  split
  · rw [bitLength_neg]
    omega
  · omega

theorem Text.Denotes.bitLength_le {memory : Variables} {text : Text} {value : Int} {length : Nat}
    (denotes : text.Denotes memory value) (within : memory.Within (4 * length))
    (short : text.length ≤ length) : bitLength value ≤ 4 * length := by
  rcases denotes with ⟨literal, rfl⟩ | ⟨-, present⟩
  · have size := bitLength_literalValue_le literal
    omega
  · exact within text value present

/-- No number that is told of texts with at most `length` characters has too many digits to be
written, if the values of the variables have at most four binary digits for each character. -/
structure Limits.Ample (limits : Limits) (length : Nat) : Prop where
  exponent : limits.maxExponent.natAbs < 10 ^ Numeral.maxDigits
  bits : limits.maxResultBits.natAbs < 10 ^ Numeral.maxDigits
  text : 4 * length < 10 ^ Numeral.maxDigits
  estimate : limits.maxExponent * (length * limits.room (4 * length)) <
    (10 ^ Numeral.maxDigits : Nat)

namespace Calculator

variable {limits : Limits} {memory : Variables} {text : Text} {length : Nat}

section

variable (within : memory.Within (4 * length)) (short : text.length ≤ length)

include within short

/-- A text leaves variables that are no larger than the texts so far let them be. -/
theorem calculate_variables {value : Option Int} {after : Variables}
    (done : calculate limits memory text = .ok (value, after)) : after.Within (4 * length) := by
  rcases calculate_cases done with rfl | ⟨name, content, assigns, -, rfl⟩
  · exact within
  · obtain ⟨-, -, left, right, -, rfl, -, -, denotes⟩ := assigns
    have part : (Text.trim right).length ≤ length := by
      have trimmed := Text.length_trim_le right
      rw [List.length_append, List.length_cons] at short
      omega
    exact within.set name (denotes.bitLength_le within part)

/-- The estimate by which a power is refused is within what the text has room for. -/
theorem estimate_lt (ample : limits.Ample length) {sent : List Token} {bits : Nat}
    (ordered : postOrder text = .ok sent)
    (refused : Evaluation.run limits memory [] sent =
      .error (.invalidExpression (.resultTooLarge bits))) : bits < 10 ^ Numeral.maxDigits := by
  have small : ∀ name value, memory.get? name = some value →
      (bitLength value : Int) ≤ 4 * length := by
    intro name value found
    have size := within name value found
    omega
  have bound := Evaluation.run_estimate (operandsWithin small ordered) List.prefix_rfl _ refused
    bits rfl
  have wide : max (4 * (text.length : Int)) (4 * length) = 4 * length := by omega
  have count : (sent.countP Token.remains : Int) ≤ length := by
    have tokens : sent.countP Token.remains ≤ sent.length := List.countP_le_length
    have characters := length_postOrder_le ordered
    omega
  have positive : 0 ≤ limits.room (4 * length) := Int.le_of_lt (limits.room_pos _)
  rw [wide] at bound
  by_cases natural : 0 ≤ limits.maxExponent
  · have estimate : (bits : Int) < (10 ^ Numeral.maxDigits : Nat) :=
      calc (bits : Int)
          ≤ limits.maxExponent * (sent.countP Token.remains * limits.room (4 * length)) := bound
        _ ≤ limits.maxExponent * (length * limits.room (4 * length)) :=
            Int.mul_le_mul_of_nonneg_left (Int.mul_le_mul_of_nonneg_right count positive) natural
        _ < (10 ^ Numeral.maxDigits : Nat) := ample.estimate
    exact Int.ofNat_lt.mp estimate
  · have negative : limits.maxExponent *
        (sent.countP Token.remains * limits.room (4 * length)) ≤ 0 :=
      Int.mul_nonpos_of_nonpos_of_nonneg (by omega)
        (Int.mul_nonneg (Int.natCast_nonneg _) positive)
    have vanishes : bits = 0 := by omega
    rw [vanishes]
    exact Nat.pow_pos (by decide)

/-- What is told of a text can be written, if the limits are ample. -/
theorem Tells.tellable (ample : limits.Ample length) {event : Event}
    (tells : Tells limits memory text event) : event.Tellable := by
  have room := ample.text
  cases tells with
  | scanned tokens => exact ⟨nofun, nofun⟩
  | reordered tokens => exact ⟨nofun, nofun⟩
  | lineFailed line fault => exact ⟨nofun, nofun⟩
  | evaluationFailed line fault => exact ⟨nofun, nofun⟩
  | exponentRefused => exact ⟨nofun, List.forall_mem_singleton.mpr ample.exponent⟩
  | powerRefused ordered refused =>
      have estimate := estimate_lt within short ample ordered refused
      refine ⟨nofun, List.forall_mem_cons.mpr ⟨?_, List.forall_mem_singleton.mpr ample.bits⟩⟩
      rwa [Int.natAbs_natCast]
  | @operandsIgnored sent stack ordered ran =>
      have operands := Evaluation.run_length_le ran
      have tokens := length_postOrder_le ordered
      refine ⟨nofun, List.forall_mem_singleton.mpr ?_⟩
      rw [Int.natAbs_natCast]
      rw [List.length_nil] at operands
      omega
  | inputRefused =>
      refine ⟨nofun, List.forall_mem_singleton.mpr ?_⟩
      rw [Int.natAbs_natCast]
      omega
  | @assigned name operand value part valued =>
      have denotes : operand.Denotes memory value := by
        unfold assignedValue at valued
        split at valued
        · exact .of_resolve valued
        · cases valued
      have size := denotes.bitLength_le within (Nat.le_trans part short)
      refine ⟨nofun, List.forall_mem_singleton.mpr ?_⟩
      rw [Int.natAbs_natCast]
      omega

end

section Power

variable {base exponent : Text} (based : Category.numeral.Admits base)
  (raised : Category.numeral.Admits exponent)
  (allowed : (Decimal.value exponent : Int) ≤ limits.maxExponent)
  (exceeds : limits.maxResultBits <
    (Decimal.value exponent * bitLength (Decimal.value base) : Nat))

include based raised allowed exceeds

theorem run_power_refused :
    Evaluation.run limits memory []
        [⟨base, .numeral⟩, ⟨exponent, .numeral⟩, ⟨['^'], .operator .power⟩] =
      .error (.invalidExpression (.resultTooLarge
        (Decimal.value exponent * bitLength (Decimal.value base)))) := by
  have first := Token.Regular.resolve_numeral (show Token.Regular ⟨base, .numeral⟩ from based)
    rfl memory
  have second := Token.Regular.resolve_numeral
    (show Token.Regular ⟨exponent, .numeral⟩ from raised) rfl memory
  have within : ¬ ((Decimal.value exponent : Int) < 0 ∨
      limits.maxExponent < Decimal.value exponent) := by omega
  have refused : Operator.power.apply limits (Decimal.value base) (Decimal.value exponent) =
      .error (.invalidExpression (.resultTooLarge
        (Decimal.value exponent * bitLength (Decimal.value base)))) := by
    simp only [Operator.apply, guardedPower, within, ↓reduceIte, Int.toNat_natCast, exceeds]
  simp only [Evaluation.run, List.foldlM_cons, Evaluation.step, ok_bind, Evaluation.operate,
    Evaluation.pop, Evaluation.popLeft, Operator.isSign, Bool.false_eq_true, ↓reduceIte, first,
    second, pure_eq_ok, refused]
  rfl

/-- A power whose exponent is within the limits is told of with the estimate by which it is refused,
however many digits the estimate has. -/
theorem reports_power_refused (spells : Token.Spells
      [⟨base, .numeral⟩, ⟨['^'], .operator .power⟩, ⟨exponent, .numeral⟩] text)
    (short : text.length ≤ limits.maxInputLength) :
    .powerRefused (Decimal.value exponent * bitLength (Decimal.value base)) limits.maxResultBits ∈
      reportEvents limits memory text := by
  have regular : ∀ token ∈ [(⟨base, .numeral⟩ : Token), ⟨['^'], .operator .power⟩,
      ⟨exponent, .numeral⟩], token.Regular := by
    simp only [List.forall_mem_cons]
    exact ⟨based, rfl, raised, nofun⟩
  have scanned := (Token.scan_trim text).trans
    (spells.scan_eq regular (by simp [Category.joins]))
  have ordered : postOrder text.trim =
      .ok [⟨base, .numeral⟩, ⟨exponent, .numeral⟩, ⟨['^'], .operator .power⟩] := by
    simp only [postOrder, scanned]
    rfl
  have occupied := spells.trim_isBlank regular (List.cons_ne_nil _ _)
  have absent : '=' ∉ text.trim :=
    fun member => spells.no_equals regular (Text.mem_of_mem_trim member)
  have trimmed := Text.length_trim_le text
  have inside : ¬ limits.maxInputLength < (text.trim.length : Int) := by omega
  refine List.mem_append_left _ ?_
  simp only [calculationEvents, occupied, Bool.false_eq_true, ↓reduceIte, inside,
    Text.splitFirst_of_notMem '=' _ absent, expressionEvents, ordered, evaluationEvents,
    run_power_refused based raised allowed exceeds]
  exact List.mem_append_right _ List.mem_cons_self

end Power

end Calculator

end Reckoner
