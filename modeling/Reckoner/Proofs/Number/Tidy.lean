import Reckoner.Proofs.Number.Numeral
import Reckoner.Proofs.Number.RoundTrip

set_option autoImplicit false

/-!
Literals and the integers that they stand for, at any length. A digit counts by its place, and an
integer that was read is written again without what counts for nothing in the literal: a plus sign,
leading zeros, and a minus sign before zero.
-/
namespace Reckoner

namespace Decimal

/-- The sum of the digits, each times the power of ten for as many digits as are behind it. -/
def placeValue : Text → Nat
  | [] => 0
  | c :: rest => (c.toNat - 48) * 10 ^ rest.length + placeValue rest

/-- The integer of a sign, if there is one, and digits. -/
def signedPlaceValue (sign digits : Text) : Int :=
  if sign = ['-'] then -(placeValue digits : Int) else placeValue digits

/-- A sign and digits without a plus sign and without leading zeros. Of zeros alone one is left,
and no sign. -/
def tidy (sign digits : Text) : Text :=
  match digits.dropWhile (· == '0') with
  | [] => ['0']
  | lead :: rest => (if sign = ['-'] then ['-'] else []) ++ lead :: rest

theorem foldl_eq_placeValue (digits : Text) (n : Nat) :
    digits.foldl (fun n c => 10 * n + (c.toNat - 48)) n =
      n * 10 ^ digits.length + placeValue digits := by
  induction digits generalizing n with
  | nil => simp [placeValue]
  | cons c rest ih =>
      rw [List.foldl_cons, ih, placeValue, List.length_cons, Nat.pow_succ, Nat.add_mul,
        Nat.add_assoc, Nat.mul_comm 10 n, Nat.mul_assoc, Nat.mul_comm 10]

theorem value_eq_placeValue (digits : Text) : value digits = placeValue digits := by
  rw [value, foldl_eq_placeValue, Nat.zero_mul, Nat.zero_add]

theorem digitChar_of_digit {c : Char} (digit : Text.digit c = true) :
    Nat.digitChar (c.toNat - 48) = c := by
  rw [Category.digit_eq_true_iff] at digit
  apply Char.toNat_inj.mp
  rw [Nat.toNat_digitChar_of_lt_ten (by omega)]
  omega

/-- Digits behind a number that is not zero stand behind its own digits. -/
theorem toDigits_foldl (digits : Text) (uniform : ∀ c ∈ digits, Text.digit c = true) {n : Nat}
    (positive : 0 < n) : Nat.toDigits 10 n ++ digits =
      Nat.toDigits 10 (digits.foldl (fun n c => 10 * n + (c.toNat - 48)) n) := by
  induction digits generalizing n with
  | nil => rw [List.append_nil, List.foldl_nil]
  | cons c rest ih =>
      rw [List.forall_mem_cons] at uniform
      have digit := (Category.digit_eq_true_iff c).mp uniform.1
      have small : c.toNat - 48 < 10 := by omega
      have last : Nat.toDigits 10 n ++ [c] = Nat.toDigits 10 (10 * n + (c.toNat - 48)) := by
        rw [← Nat.toDigits_append_toDigits (by decide) positive small,
          Nat.toDigits_of_lt_base small, digitChar_of_digit uniform.1]
      calc Nat.toDigits 10 n ++ c :: rest
          = (Nat.toDigits 10 n ++ [c]) ++ rest := List.append_cons _ _ _
        _ = Nat.toDigits 10 (10 * n + (c.toNat - 48)) ++ rest := by rw [last]
        _ = _ := ih uniform.2 (by omega)

/-- Digits that do not begin with zero are those of their number. -/
theorem ofNat_value {lead : Char} {rest : Text} (nonzero : lead ≠ '0')
    (uniform : ∀ c ∈ lead :: rest, Text.digit c = true) :
    ofNat (value (lead :: rest)) = lead :: rest := by
  rw [List.forall_mem_cons] at uniform
  have digit := (Category.digit_eq_true_iff lead).mp uniform.1
  have other : lead.toNat ≠ 48 := fun same => nonzero (Char.toNat_inj.mp same)
  have positive : 0 < lead.toNat - 48 := by omega
  have small : lead.toNat - 48 < 10 := by omega
  have behind := toDigits_foldl rest uniform.2 positive
  rw [Nat.toDigits_of_lt_base small, digitChar_of_digit uniform.1] at behind
  rw [ofNat_eq, value, List.foldl_cons, Nat.mul_zero, Nat.zero_add, ← behind]
  rfl

theorem value_dropWhile (digits : Text) :
    value (digits.dropWhile (· == '0')) = value digits := by
  induction digits with
  | nil => rfl
  | cons c rest ih =>
      by_cases zero : c = '0'
      · subst zero
        exact ih
      · rw [List.dropWhile_cons_of_neg (by simpa using zero)]

/-- A number that was read is written without leading zeros. -/
theorem ofInt_signedPlaceValue (sign digits : Text)
    (uniform : ∀ c ∈ digits, Text.digit c = true) :
    ofInt (signedPlaceValue sign digits) = tidy sign digits := by
  rw [signedPlaceValue, ← value_eq_placeValue, ← value_dropWhile, tidy]
  have kept : ∀ c ∈ digits.dropWhile (· == '0'), Text.digit c = true :=
    fun c member => uniform c ((List.dropWhile_sublist _).subset member)
  have starts := List.head?_dropWhile_not (· == '0') digits
  cases left : digits.dropWhile (· == '0') with
  | nil => simp [value, ofInt, ofNat]
  | cons lead rest =>
      rw [left] at kept starts
      have nonzero : lead ≠ '0' := by simpa using starts
      have written := ofNat_value nonzero kept
      have occupied : value (lead :: rest) ≠ 0 := by
        intro zero
        rw [zero] at written
        cases written
        exact nonzero rfl
      rw [ofInt_eq_append]
      by_cases minus : sign = ['-']
      · rw [if_pos minus, if_pos (by omega), Int.natAbs_neg, Int.natAbs_natCast, written,
          if_pos minus]
      · rw [if_neg minus, if_neg (by omega), Int.natAbs_natCast, written, if_neg minus]

theorem read_signedPlaceValue {sign digits : Text}
    (signs : sign = [] ∨ sign = ['+'] ∨ sign = ['-']) (nonempty : digits ≠ [])
    (uniform : ∀ c ∈ digits, Text.digit c = true) :
    Numeral.read (sign ++ digits) = .ok (signedPlaceValue sign digits) := by
  have literal : Text.Signed Text.digit (sign ++ digits) :=
    ⟨sign, digits, signs, nonempty, uniform, rfl⟩
  rw [Numeral.read_literal literal, literalValue_append sign digits signs uniform,
    signedPlaceValue, value_eq_placeValue]

/-- Decimal texts and integers at any length. An integer is written canonically, as a literal that
is read as the same integer. A literal is read as the integer that its digits make by their places,
and this integer is written as the literal without a plus sign, without leading zeros, and without a
sign before zero. -/
theorem ofInt_inverse :
    (∀ n : Int, Numeral.read (ofInt n) = .ok n ∧ isLiteral (ofInt n) = true ∧
        Canonical (ofInt n)) ∧
      ∀ sign digits : Text, (sign = [] ∨ sign = ['+'] ∨ sign = ['-']) → digits ≠ [] →
        (∀ c ∈ digits, Text.digit c = true) →
        Numeral.read (sign ++ digits) = .ok (signedPlaceValue sign digits) ∧
          ofInt (signedPlaceValue sign digits) = tidy sign digits := by
  refine ⟨?_, ?_⟩
  · intro n
    have literal := signed_ofInt n
    refine ⟨?_, (isLiteral_eq_true_iff _).mpr literal, ofInt_canonical n⟩
    rw [Numeral.read_literal literal, literalValue_ofInt]
  · intro sign digits signs nonempty uniform
    exact ⟨read_signedPlaceValue signs nonempty uniform, ofInt_signedPlaceValue sign digits uniform⟩

/-- Zeros before the digits go, and the sign goes where nothing but zeros is behind it. -/
theorem ofInt_inverse_zeros :
    Numeral.read "-0070".toList = .ok (-70) ∧ ofInt (-70) = "-70".toList ∧
      Numeral.read "-00".toList = .ok 0 ∧ ofInt 0 = "0".toList := by
  have minus : ['-'] = [] ∨ ['-'] = ['+'] ∨ ['-'] = ['-'] := .inr (.inr rfl)
  have seventy := ofInt_inverse.2 ['-'] "0070".toList minus (by decide) (List.all_eq_true.mp rfl)
  have zero := ofInt_inverse.2 ['-'] "00".toList minus (by decide) (List.all_eq_true.mp rfl)
  exact ⟨seventy.1, seventy.2, zero.1, zero.2⟩

end Decimal

end Reckoner
