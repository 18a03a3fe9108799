import Reckoner.Number.Numeral
import Reckoner.Proofs.Number.Decimal
import Reckoner.Proofs.Operand
import Reckoner.Proofs.Text.Trim

set_option autoImplicit false

/-!
Literals as numerals. The reader of numerals takes every literal, whatever its length, and reads
the value that the digits stand for; written out again, this value is no longer than the literal.
-/
namespace Reckoner

theorem Text.digitValue?_digit {c : Char} (digit : Text.digit c = true) :
    digitValue? c = some (c.toNat - 48) := by
  rw [Category.digit_eq_true_iff] at digit
  simp [digitValue?, scriptZeros, digit]

namespace Numeral

variable {text : Text}

theorem digits?_digits (nonempty : text ≠ []) (digits : ∀ c ∈ text, Text.digit c = true) :
    digits? text = some (text.map fun c => c.toNat - 48) := by
  fun_induction digits? text with
  | case1 => exact absurd rfl nonempty
  | case2 c => simp [Text.digitValue?_digit (digits c (by simp))]
  | case3 c rest ih => exact absurd (digits '_' (by simp)) (by decide)
  | case4 c rest more single ih =>
      have behind : rest ≠ [] := fun vanishes => by simp_all
      have later := ih behind fun d member => digits d (by simp [member])
      simp [Text.digitValue?_digit (digits c (by simp)), later]

theorem value_map (text : Text) : value (text.map fun c => c.toNat - 48) = Decimal.value text := by
  simp only [value, Decimal.value, List.foldl_map]

theorem margin_eq_false {c : Char} (counts : Text.digit c = true ∨ c = '+' ∨ c = '-') :
    margin c = false := by
  have blank : Text.blankChar c = false := by
    rw [← Bool.not_eq_true]
    intro blank
    have noise := Category.ofChar_blank blank
    rcases counts with digit | rfl | rfl
    · simp [Category.ofChar_digit digit] at noise
    · cases noise
    · cases noise
  simp [margin, blank]

theorem literal_margin (literal : Text.Signed Text.digit text) :
    ∀ c ∈ text, margin c = false := by
  obtain ⟨sign, body, signs, -, uniform, rfl⟩ := literal
  intro c member
  refine margin_eq_false ?_
  rcases List.mem_append.mp member with first | later
  · rcases signs with rfl | rfl | rfl <;> simp_all
  · exact .inl (uniform c later)

/-- A literal is a numeral, and its value is that of the numeral. -/
theorem read_literal (literal : Text.Signed Text.digit text) :
    read text = .ok (literalValue text) := by
  obtain ⟨nonempty, digits⟩ := (Text.signed_iff rfl rfl text).mp literal
  have solid : Text.trimBy margin text = text := Text.trimBy_eq_self (literal_margin literal)
  simp only [read, parts?, solid, digits?_digits nonempty digits, Option.map_some,
    value_map, literalValue]

theorem leadingDigits_literal_le (literal : Text.Signed Text.digit text) :
    leadingDigits text ≤ text.length := by
  obtain ⟨nonempty, digits⟩ := (Text.signed_iff rfl rfl text).mp literal
  have solid : text.dropWhile margin = text :=
    List.dropWhile_eq_self_iff.mpr fun positive => by
      rw [Bool.not_eq_true]
      exact literal_margin literal _ (List.getElem_mem positive)
  have whole : (Decimal.splitSign text).2.takeWhile digitOrMark = (Decimal.splitSign text).2 :=
    List.takeWhile_eq_self_iff.mpr fun c member => by
      simp [digitOrMark, Text.digitValue?_digit (digits c member)]
  have unsigned : (Decimal.splitSign text).2.length ≤ text.length := by
    unfold Decimal.splitSign
    split <;> simp
  simpa only [leadingDigits, solid, whole, digits?_digits nonempty digits, Option.getD_some,
    List.length_map] using unsigned

theorem readShort_literal (literal : Text.Signed Text.digit text)
    (short : text.length ≤ maxDigits) : readShort text = .ok (literalValue text) := by
  have digits := leadingDigits_literal_le literal
  rw [readShort, if_neg (by omega), read_literal literal]

end Numeral

namespace Decimal

theorem foldl_lt (digits : Text) (uniform : ∀ c ∈ digits, Text.digit c = true) (n : Nat) :
    digits.foldl (fun n c => 10 * n + (c.toNat - 48)) n < (n + 1) * 10 ^ digits.length := by
  induction digits generalizing n with
  | nil => simp
  | cons c rest ih =>
      have digit := (Category.digit_eq_true_iff c).mp (uniform c (by simp))
      have step : 10 * n + (c.toNat - 48) + 1 ≤ (n + 1) * 10 := by omega
      calc (c :: rest).foldl (fun n c => 10 * n + (c.toNat - 48)) n
          < (10 * n + (c.toNat - 48) + 1) * 10 ^ rest.length :=
            ih (fun d member => uniform d (by simp [member])) _
        _ ≤ (n + 1) * 10 * 10 ^ rest.length := Nat.mul_le_mul_right _ step
        _ = (n + 1) * 10 ^ (c :: rest).length := by
            rw [List.length_cons, Nat.pow_succ, Nat.mul_assoc, Nat.mul_comm 10]

theorem value_lt (digits : Text) (uniform : ∀ c ∈ digits, Text.digit c = true) :
    value digits < 10 ^ digits.length := by
  have bound := foldl_lt digits uniform 0
  simpa [value] using bound

/-- A value has no more digits than the literal that it was read from. -/
theorem length_toDigits_literalValue {text : Text} (literal : Text.Signed Text.digit text) :
    (Nat.toDigits 10 (literalValue text).natAbs).length ≤ text.length := by
  obtain ⟨sign, body, signs, nonempty, uniform, rfl⟩ := literal
  have magnitude : (literalValue (sign ++ body)).natAbs = value body := by
    rw [literalValue_append sign body signs uniform]
    split <;> simp
  have positive : 0 < body.length := List.length_pos_iff.mpr nonempty
  have short := (Nat.length_toDigits_le_iff (by decide) positive).mpr (value_lt body uniform)
  rw [magnitude, List.length_append]
  omega

end Decimal

end Reckoner
