import Reckoner.Proofs.Token.Character

set_option autoImplicit false

/-!
Regular tokens: their text is one for their category. The text of a sign is a run of plus and
minus signs, and the count of the minus signs says which of the two the run comes to.
-/
namespace Reckoner

/-- The text is one for a token of the category. A run of signs is a minus if it has an odd
number of minus signs, and a plus if it has an even number of them. -/
def Category.Admits : Category → Text → Prop
  | .noise, _ => False
  | .numeral, text => text ≠ [] ∧ ∀ c ∈ text, Text.digit c = true
  | .name, text => text ≠ [] ∧ ∀ c ∈ text, Text.letter c = true
  | .operator .add, text =>
      text ≠ [] ∧ (∀ c ∈ text, c = '+' ∨ c = '-') ∧ text.count '-' % 2 = 0
  | .operator .subtract, text =>
      text ≠ [] ∧ (∀ c ∈ text, c = '+' ∨ c = '-') ∧ text.count '-' % 2 = 1
  | .operator .multiply, text => text = ['*']
  | .operator .divide, text => text = ['/']
  | .operator .power, text => text = ['^']
  | .opening, text => text = ['(']
  | .closing, text => text = [')']

instance : (category : Category) → (text : Text) → Decidable (category.Admits text)
  | .noise, _ => inferInstanceAs (Decidable False)
  | .numeral, text =>
      decidable_of_iff (text ≠ [] ∧ text.all Text.digit = true) (by simp [Category.Admits])
  | .name, text =>
      decidable_of_iff (text ≠ [] ∧ text.all Text.letter = true) (by simp [Category.Admits])
  | .operator .add, text =>
      decidable_of_iff (text ≠ [] ∧ (text.all fun c => c == '+' || c == '-') = true ∧
        text.count '-' % 2 = 0) (by simp [Category.Admits])
  | .operator .subtract, text =>
      decidable_of_iff (text ≠ [] ∧ (text.all fun c => c == '+' || c == '-') = true ∧
        text.count '-' % 2 = 1) (by simp [Category.Admits])
  | .operator .multiply, text => inferInstanceAs (Decidable (text = ['*']))
  | .operator .divide, text => inferInstanceAs (Decidable (text = ['/']))
  | .operator .power, text => inferInstanceAs (Decidable (text = ['^']))
  | .opening, text => inferInstanceAs (Decidable (text = ['(']))
  | .closing, text => inferInstanceAs (Decidable (text = [')']))

namespace Token

def Regular (token : Token) : Prop := token.category.Admits token.text

instance (token : Token) : Decidable token.Regular :=
  inferInstanceAs (Decidable (token.category.Admits token.text))

/-- The sign that a run of signs comes to. -/
def signOf (run : Text) : Operator := if run.count '-' % 2 = 0 then .add else .subtract

theorem signOf_isSign (run : Text) : (signOf run).isSign = true := by
  unfold signOf
  split <;> rfl

theorem regular_single {c : Char} (counts : Category.ofChar c ≠ .noise) :
    Regular ⟨[c], Category.ofChar c⟩ := by
  rcases Category.ofChar_cases c with ⟨digit, kind⟩ | ⟨letter, kind⟩ | ⟨symbol, rfl, kind⟩ |
    ⟨rfl, kind⟩ | ⟨rfl, kind⟩ | kind
  · simp [Regular, kind, Category.Admits, digit]
  · simp [Regular, kind, Category.Admits, letter]
  · simp only [Regular, kind]
    cases symbol <;> simp [Category.Admits, Operator.mark]
  · rfl
  · rfl
  · exact absurd kind counts

theorem regular_signOf {run : Text} (nonempty : run ≠ []) (signs : ∀ c ∈ run, c = '+' ∨ c = '-') :
    Regular ⟨run, .operator (signOf run)⟩ := by
  rcases Nat.mod_two_eq_zero_or_one (run.count '-') with even | odd
  · simpa [Regular, signOf, even, Category.Admits, nonempty] using signs
  · simpa [Regular, signOf, odd, Category.Admits, nonempty] using signs

/-- A regular sign is what its run comes to. -/
theorem sign_of_regular {token : Token} (regular : token.Regular)
    (sign : token.category.isSign = true) :
    token.category = .operator (signOf token.text) ∧ ∀ c ∈ token.text, c = '+' ∨ c = '-' := by
  obtain ⟨text, category⟩ := token
  match category, regular, sign with
  | .operator .add, regular, _ => exact ⟨by simp [signOf, regular.2.2], regular.2.1⟩
  | .operator .subtract, regular, _ => exact ⟨by simp [signOf, regular.2.2], regular.2.1⟩

theorem isSign_ofChar_iff (c : Char) :
    (Category.ofChar c).isSign = true ↔ c = '+' ∨ c = '-' := by
  constructor
  · intro sign
    have counts : Category.ofChar c ≠ .noise := by
      intro noise
      simp [noise, Category.isSign] at sign
    exact (sign_of_regular (regular_single counts) sign).2 c (by simp)
  · rintro (rfl | rfl)
    · rfl
    · rfl

theorem text_of_regular {token : Token} (regular : token.Regular) {symbol : Operator}
    (kind : token.category = .operator symbol) (other : symbol.isSign = false) :
    token.text = [symbol.mark] := by
  obtain ⟨text, category⟩ := token
  subst kind
  cases symbol with
  | add => cases other
  | subtract => cases other
  | multiply => exact regular
  | divide => exact regular
  | power => exact regular

theorem not_isSign_of_mark (symbol : Operator) :
    symbol.isSign = false ↔ symbol.mark = '*' ∨ symbol.mark = '/' ∨ symbol.mark = '^' := by
  cases symbol <;> simp [Operator.isSign, Operator.mark]

/-- Each character of a regular token has the category of the token, or both are signs. -/
theorem Regular.ofChar_mem {token : Token} (regular : token.Regular) {c : Char}
    (member : c ∈ token.text) : Category.ofChar c = token.category ∨
      ((Category.ofChar c).isSign = true ∧ token.category.isSign = true) := by
  obtain ⟨text, category⟩ := token
  have single {d : Char} (same : text = [d]) (kind : Category.ofChar d = category) :
      Category.ofChar c = category := by
    subst same
    rw [List.mem_singleton.mp member]
    exact kind
  cases category with
  | noise => exact False.elim regular
  | numeral => exact .inl (Category.ofChar_digit (regular.2 c member))
  | name => exact .inl (Category.ofChar_letter (regular.2 c member))
  | opening => exact .inl (single regular rfl)
  | closing => exact .inl (single regular rfl)
  | operator symbol =>
      cases sign : symbol.isSign with
      | true =>
          refine .inr ⟨?_, sign⟩
          rcases (sign_of_regular regular sign).2 c member with rfl | rfl
          · rfl
          · rfl
      | false =>
          exact .inl (single (text_of_regular regular rfl sign) (Category.ofChar_mark symbol))

theorem Regular.ne_noise {token : Token} (regular : token.Regular) : token.category ≠ .noise := by
  obtain ⟨text, category⟩ := token
  rintro rfl
  exact regular

theorem Regular.counts {token : Token} (regular : token.Regular) (c : Char)
    (member : c ∈ token.text) : Category.ofChar c ≠ .noise := by
  intro noise
  rcases regular.ofChar_mem member with same | signs
  · obtain ⟨text, category⟩ := token
    rw [noise] at same
    subst same
    exact regular
  · rw [noise] at signs
    cases signs.1

/-- A token with a mark in it that is no sign is that operator. -/
theorem category_of_mark {token : Token} (regular : token.Regular) {symbol : Operator}
    (other : symbol.isSign = false) (member : symbol.mark ∈ token.text) :
    token.category = .operator symbol := by
  rcases regular.ofChar_mem member with same | signs
  · rw [← same, Category.ofChar_mark]
  · rw [Category.ofChar_mark, Category.isSign, other] at signs
    cases signs.1

theorem Regular.nonempty {token : Token} (regular : token.Regular) : token.text ≠ [] := by
  obtain ⟨text, category⟩ := token
  intro vanishes
  simp only at vanishes
  subst vanishes
  match category, regular with
  | .numeral, regular => exact regular.1 rfl
  | .name, regular => exact regular.1 rfl
  | .operator .add, regular => exact regular.1 rfl
  | .operator .subtract, regular => exact regular.1 rfl

theorem regular_mark (symbol : Operator) : Regular ⟨[symbol.mark], .operator symbol⟩ := by
  have counts : Category.ofChar symbol.mark ≠ .noise := by simp
  have single := regular_single counts
  rw [Category.ofChar_mark] at single
  exact single

end Token

end Reckoner
