import Reckoner.Proofs.Number.Decimal

set_option autoImplicit false

/-!
Canonical decimals: each integer is written without a plus sign, without leading zeros and without
a sign before zero.
-/
namespace Reckoner.Decimal

/-- Zero, or digits of which the first is not zero, with at most a minus sign before them. -/
def Canonical (text : Text) : Prop :=
  text = ['0'] ∨ ∃ sign lead rest, (sign = [] ∨ sign = ['-']) ∧ Text.digit lead = true ∧
    lead ≠ '0' ∧ (∀ c ∈ rest, Text.digit c = true) ∧ text = sign ++ lead :: rest

theorem digit_of_isDigit {c : Char} (digit : c.isDigit = true) : Text.digit c = true := by
  simp only [Char.isDigit, Bool.and_eq_true, decide_eq_true_eq, UInt32.le_iff_toNat_le] at digit
  simpa [Text.digit, Text.inRanges] using digit

theorem digitChar_ne_zero (n : Nat) (positive : 0 < n) (small : n < 10) :
    Nat.digitChar n ≠ '0' := by
  intro zero
  have code := congrArg Char.toNat zero
  rw [Nat.toNat_digitChar_of_lt_ten small] at code
  have : Char.toNat '0' = 48 := rfl
  omega

theorem toDigits_lead (n : Nat) (positive : 0 < n) :
    ∃ lead rest, Nat.toDigits 10 n = lead :: rest ∧ lead ≠ '0' := by
  induction n using Nat.strongRecOn with
  | _ n ih =>
      rw [Nat.toDigits_eq_if (by decide)]
      by_cases small : n < 10
      · exact ⟨_, [], if_pos small, digitChar_ne_zero n positive small⟩
      · obtain ⟨lead, rest, high, nonzero⟩ := ih (n / 10) (by omega) (by omega)
        exact ⟨lead, rest ++ [(n % 10).digitChar], by simp [small, high], nonzero⟩

theorem ofNat_digits (n : Nat) : ∀ c ∈ ofNat n, Text.digit c = true := by
  intro c member
  rw [ofNat_eq] at member
  exact digit_of_isDigit (Nat.isDigit_of_mem_toDigits (by decide) (by decide) member)

theorem ofInt_canonical (n : Int) : Canonical (ofInt n) := by
  by_cases vanishes : n = 0
  · exact .inl (by rw [vanishes]; rfl)
  · have digits := ofNat_digits n.natAbs
    obtain ⟨lead, rest, high, nonzero⟩ := toDigits_lead n.natAbs (by omega)
    rw [← ofNat_eq] at high
    rw [high, List.forall_mem_cons] at digits
    refine .inr ⟨if n < 0 then ['-'] else [], lead, rest, ?_, digits.1, nonzero, digits.2, ?_⟩
    · split
      · exact .inr rfl
      · exact .inl rfl
    · unfold ofInt
      split
      · rw [high, List.singleton_append]
      · rw [high, List.nil_append]

theorem Canonical.starts {text : Text} (canonical : Canonical text) :
    ∃ c rest, text = c :: rest ∧ (c = '-' ∨ Text.digit c = true) := by
  rcases canonical with zero | ⟨sign, lead, rest, signs, digit, -, -, parts⟩
  · exact ⟨'0', [], zero, .inr rfl⟩
  · rcases signs with rfl | rfl
    · exact ⟨lead, rest, parts, .inr digit⟩
    · exact ⟨'-', lead :: rest, parts, .inl rfl⟩

end Reckoner.Decimal
