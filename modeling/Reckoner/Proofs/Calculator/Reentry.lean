import Reckoner.Proofs.Calculator.Display
import Reckoner.Proofs.Expression.Printing
import Reckoner.Proofs.Number.RoundTrip
import Reckoner.Proofs.Session.Agreement

set_option autoImplicit false

/-!
Results as input. A decimal that a line shows can be put on a line again, and on the right side of
an assignment. A negative one is read as a sign before a numeral in the one place and as a single
literal in the other, and still it has the same value in both.
-/
namespace Reckoner

theorem Token.spells_self (token : Token) : Spells [token] token.text := by
  have gap : Text.isBlank [] = true := rfl
  have spells : Spells [token] ([] ++ token.text ++ []) := .next gap (.done gap)
  simpa using spells

/-- A written integer on a line: its digits, behind a sign without a left operand if it is
negative. -/
def Form.ofInt (n : Int) : Form :=
  if n < 0 then .signed .subtract ['-'] (.numeral (Decimal.ofNat n.natAbs))
  else .numeral (Decimal.ofNat n.natAbs)

namespace Form

theorem ofInt_prints (n : Int) : (ofInt n).Prints 1 (ofInt n).tree := by
  have digits : Category.numeral.Admits (Decimal.ofNat n.natAbs) :=
    ⟨Decimal.ofNat_ne_nil _, Decimal.ofNat_digits _⟩
  unfold ofInt
  split
  · exact .signed rfl (Int.le_refl 1) (by decide) (.numeral digits)
  · exact .numeral digits

theorem ofInt_spells (n : Int) : Token.Spells (ofInt n).tokens (Decimal.ofInt n) := by
  unfold ofInt Decimal.ofInt
  split
  · have gap : Text.isBlank [] = true := rfl
    exact .next gap (Token.spells_self ⟨_, .numeral⟩)
  · exact Token.spells_self ⟨_, .numeral⟩

/-- Nothing waits on the stack for the sign of a written integer. -/
theorem ofInt_reading (n : Int) : (ofInt n).reading = (ofInt n).tree := by
  unfold ofInt
  split
  · rfl
  · rfl

theorem ofInt_value (limits : Limits) (memory : Variables) (n : Int) :
    (ofInt n).tree.value limits memory = some n := by
  have digits : (Decimal.ofNat n.natAbs).all Text.digit = true :=
    List.all_eq_true.mpr (Decimal.ofNat_digits _)
  unfold ofInt
  split
  · have turned : 0 - (n.natAbs : Int) = n := by omega
    simp only [tree, Tree.value, digits, ↓reduceIte, Decimal.value_ofNat, Operator.isSign,
      Operator.value, Option.bind_eq_bind, Option.bind_some, turned]
  · have kept : (n.natAbs : Int) = n := by omega
    simp only [tree, Tree.value, digits, ↓reduceIte, Decimal.value_ofNat, kept]

end Form

namespace Text.Signed

variable {kind : Char → Bool} {text : Text}

theorem trim_eq (counts : ∀ c, kind c = true → Category.ofChar c ≠ .noise)
    (signed : Text.Signed kind text) : text.trim = text := by
  obtain ⟨sign, body, signs, -, uniform, rfl⟩ := signed
  apply trimBy_eq_self
  intro c member
  apply Category.blankChar_eq_false
  rcases List.mem_append.mp member with first | later
  · rcases signs with rfl | rfl | rfl
    · cases first
    · rw [List.mem_singleton.mp first]
      decide
    · rw [List.mem_singleton.mp first]
      decide
  · exact counts c (uniform c later)

theorem trim_digits (signed : Text.Signed Text.digit text) : text.trim = text :=
  signed.trim_eq fun c digit => by simp [Category.ofChar_digit digit]

theorem trim_letters (signed : Text.Signed Text.letter text) : text.trim = text :=
  signed.trim_eq fun c letter => by simp [Category.ofChar_letter letter]

theorem no_equals (signed : Text.Signed Text.letter text) : '=' ∉ text := by
  obtain ⟨sign, body, signs, -, uniform, rfl⟩ := signed
  rw [List.mem_append, not_or]
  constructor
  · rcases signs with rfl | rfl | rfl <;> decide
  · exact fun member => absurd (uniform '=' member) (by decide)

end Text.Signed

namespace Calculator

variable (limits : Limits) (memory : Variables)

/-- A decimal within the limit on length is shown as it is. -/
theorem line_ofInt (n : Int) (short : (Decimal.ofInt n).length ≤ limits.maxInputLength) :
    line limits memory (Decimal.ofInt n) = (Decimal.ofInt n, memory) := by
  have prints := Form.ofInt_prints n
  have trimmed := (Decimal.signed_ofInt n).trim_digits
  have valued := (Tree.outcome_eq_ok_iff _ prints.proper n).mpr (Form.ofInt_value limits memory n)
  rw [line_form limits memory (Form.ofInt n) prints.binds prints.regular _ (Form.ofInt_spells n)
    (by rw [trimmed]; exact short), Form.ofInt_reading, valued, shown, ← Decimal.ofInt_eq]

theorem line_name {name : Text} (nonempty : name ≠ []) (letters : ∀ c ∈ name, Text.letter c = true)
    (short : name.length ≤ limits.maxInputLength) {n : Int} (present : memory.get? name = some n) :
    line limits memory name = (Decimal.ofInt n, memory) := by
  have signed : Text.Signed Text.letter name := ⟨[], name, .inl rfl, nonempty, letters, rfl⟩
  have prints : (Form.name name).Prints 1 (.operand name) := .name ⟨nonempty, letters⟩
  have spells : Token.Spells (Form.name name).tokens name := Token.spells_self ⟨name, .name⟩
  have valued : (Form.name name).reading.outcome limits memory = .ok n :=
    Operand.resolve_name ((isName_eq_true_iff name).mpr signed) present
  rw [line_form limits memory (.name name) prints.binds prints.regular name spells
    (by rw [signed.trim_letters]; exact short), valued, shown, ← Decimal.ofInt_eq]

/-- An assignment of a decimal shows nothing, and the name has the value then. -/
theorem line_assigns {name : Text} (named : Text.Signed Text.letter name) (n : Int)
    (short : (name ++ '=' :: Decimal.ofInt n).length ≤ limits.maxInputLength) :
    line limits memory (name ++ '=' :: Decimal.ofInt n) = ([], memory.set name n) := by
  have digits := Decimal.signed_ofInt n
  have denotes : (Decimal.ofInt n).Denotes memory n := .inl ⟨digits, literalValue_ofInt n⟩
  have assigns : Assigns limits memory (name ++ '=' :: Decimal.ofInt n) name n :=
    ⟨isBlank_append _ _, short, name, Decimal.ofInt n, named.no_equals, rfl, named.trim_letters,
      named, by rw [digits.trim_digits]; exact denotes⟩
  simp only [line, calculate_trim limits memory _ (.inr short), calculate_of_assigns assigns,
    showValue]

/-- A line that shows a decimal came to the integer that is written so. -/
theorem line_eq_ofInt {text : Text} (decimal : Decimal.Canonical (line limits memory text).1) :
    ∃ n, (line limits memory text).1 = Decimal.ofInt n := by
  have came := (fits_line_iff limits memory text .decimal).mp decimal
  unfold line
  cases done : calculate limits memory text.trim with
  | error fault =>
      rw [done] at came
      cases fault <;> cases came
  | ok result =>
      obtain ⟨value, after⟩ := result
      cases value with
      | none =>
          rw [done] at came
          cases came
      | some n => exact ⟨n, rfl⟩

/-- Results are input. A decimal that is shown on any line shows itself again, if it is not too
long for a line, whatever the variables; and if a name of letters is set to it on a line that is
not too long, this shows nothing, and the name on a line of its own shows that decimal. -/
theorem line_reenters (text : Text) (decimal : Decimal.Canonical (line limits memory text).1) :
    let result := (line limits memory text).1
    (result.length ≤ limits.maxInputLength →
      ∀ later, line limits later result = (result, later)) ∧
    ∀ name : Text, name ≠ [] → (∀ c ∈ name, Text.letter c = true) →
      (name ++ '=' :: result).length ≤ limits.maxInputLength →
      ∀ later, ∃ after, line limits later (name ++ '=' :: result) = ([], after) ∧
        line limits after name = (result, after) := by
  intro result
  obtain ⟨n, written⟩ := line_eq_ofInt limits memory decimal
  rw [show result = Decimal.ofInt n from written]
  constructor
  · intro short later
    exact line_ofInt limits later n short
  · intro name nonempty letters short later
    have shorter : name.length ≤ limits.maxInputLength := by
      rw [List.length_append] at short
      omega
    refine ⟨later.set name n, line_assigns limits later
      ⟨[], name, .inl rfl, nonempty, letters, rfl⟩ n short, ?_⟩
    exact line_name limits _ nonempty letters shorter (by simp [Table.get?_set])

/-- A negative result, with exactly the characters that it and the name take. -/
theorem line_reenters_negative :
    let limits : Limits := ⟨5, 3, 9⟩
    line limits ⟨[(['y'], 20)]⟩ "1-y".toList = ("-19".toList, ⟨[(['y'], 20)]⟩) ∧
      line limits ⟨[]⟩ "-19".toList = ("-19".toList, ⟨[]⟩) ∧
      ∃ after, line limits ⟨[]⟩ "y=-19".toList = ([], after) ∧
        line limits after ['y'] = ("-19".toList, after) := by
  intro limits
  have shown : line limits ⟨[(['y'], 20)]⟩ "1-y".toList = ("-19".toList, ⟨[(['y'], 20)]⟩) := by
    decide
  have written : "-19".toList = Decimal.ofInt (-19) := by decide
  have general := line_reenters limits ⟨[(['y'], 20)]⟩ "1-y".toList
  rw [shown] at general
  obtain ⟨again, assigned⟩ := general (by rw [written]; exact Decimal.ofInt_canonical (-19))
  have letters : ∀ c ∈ ['y'], Text.letter c = true := List.forall_mem_singleton.mpr rfl
  exact ⟨shown, again (by decide) ⟨[]⟩,
    assigned ['y'] (List.cons_ne_nil _ _) letters (by decide) ⟨[]⟩⟩

end Calculator

end Reckoner
