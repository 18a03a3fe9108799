import Reckoner.Proofs.Number.Canonical
import Reckoner.Proofs.Text.Lines
import Reckoner.Proofs.Token.Character
import Reckoner.Text.Quoted

set_option autoImplicit false

/-!
Legible texts: those that print throughout. A legible text stands on one line, and a quoted text is
legible whatever it quotes.
-/
namespace Reckoner

namespace Text

def Legible (text : Text) : Prop := ∀ c ∈ text, printable c = true

instance (text : Text) : Decidable text.Legible :=
  decidable_of_iff (text.all printable = true) List.all_eq_true

theorem legible_nil : Legible [] := List.forall_mem_nil _

theorem Legible.cons {c : Char} {rest : Text} (prints : printable c = true)
    (legible : rest.Legible) : Legible (c :: rest) := List.forall_mem_cons.mpr ⟨prints, legible⟩

theorem Legible.append {front back : Text} (first : front.Legible) (second : back.Legible) :
    Legible (front ++ back) := List.forall_mem_append.mpr ⟨first, second⟩

theorem legible_join {separator : Text} {parts : List Text} (between : separator.Legible)
    (each : ∀ part ∈ parts, part.Legible) : (join separator parts).Legible := by
  fun_induction join separator parts with
  | case1 => exact legible_nil
  | case2 only => exact each only List.mem_cons_self
  | case3 first rest several ih =>
      rw [List.forall_mem_cons] at each
      exact (each.1.append between).append (ih each.2)

/-- The first range holds what prints of ASCII. -/
theorem printable_of_ascii {c : Char} (low : 0x20 ≤ c.toNat) (high : c.toNat ≤ 0x7E) :
    printable c = true :=
  List.any_eq_true.mpr ⟨(0x20, 0x7E), List.mem_cons_self, by simp [low, high]⟩

theorem legible_of_digits {text : Text} (digits : ∀ c ∈ text, digit c = true) :
    text.Legible := by
  intro c member
  have range := (Category.digit_eq_true_iff c).mp (digits c member)
  exact printable_of_ascii (by omega) (by omega)

theorem legible_of_letters {text : Text} (letters : ∀ c ∈ text, letter c = true) :
    text.Legible := by
  intro c member
  have range := (Category.letter_eq_true_iff c).mp (letters c member)
  exact printable_of_ascii (by omega) (by omega)

theorem lineFeed_unprintable : printable '\n' = false := by decide +kernel

theorem return_unprintable : printable '\r' = false := by decide +kernel

theorem Legible.inner {text : Text} (legible : text.Legible) :
    ∀ c ∈ text, lineEnd c = false := by
  intro c member
  have prints := legible c member
  rw [← Bool.not_eq_true]
  intro ends
  simp only [lineEnd, Bool.or_eq_true, beq_iff_eq] at ends
  rcases ends with rfl | rfl
  · rw [lineFeed_unprintable] at prints
    cases prints
  · rw [return_unprintable] at prints
    cases prints

section Quoted

theorem printable_digitChar : ∀ digit < 16, printable (Nat.digitChar digit) = true := by decide

theorem legible_hex (width n : Nat) : (hex width n).Legible := by
  induction width generalizing n with
  | zero => exact legible_nil
  | succ width ih =>
      have last := printable_digitChar (n % 16) (Nat.mod_lt n (by decide))
      exact (ih (n / 16)).append (legible_nil.cons last)

theorem legible_spellCodePoint (c : Char) : (spellCodePoint c).Legible := by
  have behind (size : Char) (prints : printable size = true) (width : Nat) :
      Legible ('\\' :: size :: hex width c.toNat) :=
    ((legible_hex width c.toNat).cons prints).cons (by decide)
  unfold spellCodePoint
  split
  · exact behind 'x' (by decide) 2
  split
  · exact behind 'u' (by decide) 4
  · exact behind 'U' (by decide) 8

/-- What does not print is spelled by characters that do. -/
theorem legible_quoteChar {mark : Char} (prints : printable mark = true) (c : Char) :
    (quoteChar mark c).Legible := by
  unfold quoteChar
  split
  · next marks =>
      rcases marks with rfl | rfl
      · exact (legible_nil.cons prints).cons (by decide)
      · decide
  split
  · decide
  split
  · decide
  split
  · decide
  split
  · next itself => exact legible_nil.cons itself
  · exact legible_spellCodePoint c

theorem printable_quotationMark (text : Text) : printable (quotationMark text) = true := by
  unfold quotationMark
  split
  · decide
  · decide

/-- A quoted text is legible, whatever stands in it. -/
theorem legible_quoted (text : Text) : text.quoted.Legible := by
  have mark := printable_quotationMark text
  have inside : Legible (text.flatMap (quoteChar (quotationMark text))) := by
    intro c member
    obtain ⟨quotes, -, part⟩ := List.mem_flatMap.mp member
    exact legible_quoteChar mark quotes c part
  exact (inside.cons mark).append (legible_nil.cons mark)

end Quoted

end Text

namespace Decimal

theorem legible_ofNat (n : Nat) : (ofNat n).Legible := Text.legible_of_digits (ofNat_digits n)

theorem legible_ofInt (n : Int) : (ofInt n).Legible := by
  unfold ofInt
  split
  · exact (legible_ofNat n.natAbs).cons (by decide)
  · exact legible_ofNat _

end Decimal

end Reckoner
