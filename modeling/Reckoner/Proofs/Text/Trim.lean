import Mathlib.Data.List.DropRight
import Reckoner.Text.Blank

set_option autoImplicit false

/-!
Trimming and cutting of texts. Trimming takes blanks off both ends and nothing else, and the
first occurrence of a mark cuts a text in one way only.
-/
namespace Reckoner.Text

theorem trimBy_eq (drop : Char → Bool) (text : Text) :
    trimBy drop text = (text.dropWhile drop).rdropWhile drop := rfl

/-- What is cut off on the left starts the text, and the rest goes on with a kept character. -/
theorem dropWhile_trimBy (drop : Char → Bool) (text : Text) :
    (trimBy drop text).dropWhile drop = trimBy drop text := by
  rw [List.dropWhile_eq_self_iff]
  intro positive
  have start : trimBy drop text <+: text.dropWhile drop := by
    rw [trimBy_eq]
    exact List.rdropWhile_prefix drop _
  have within := Nat.lt_of_lt_of_le positive start.length_le
  have same : (trimBy drop text)[0] = (text.dropWhile drop)[0] := start.getElem positive
  rw [same]
  exact List.dropWhile_get_zero_not drop text within

theorem trimBy_eq_self {drop : Char → Bool} {text : Text} (solid : ∀ c ∈ text, drop c = false) :
    trimBy drop text = text := by
  have kept (other : Text) (inside : ∀ c ∈ other, c ∈ text) : other.dropWhile drop = other := by
    cases other with
    | nil => rfl
    | cons c rest => simp [solid c (inside c (by simp))]
  rw [trimBy, kept text (fun c member => member),
    kept text.reverse (fun c member => List.mem_reverse.mp member), List.reverse_reverse]

theorem trim_trim (text : Text) : text.trim.trim = text.trim := by
  have left := dropWhile_trimBy blankChar text
  have right : (text.trim).rdropWhile blankChar = text.trim :=
    List.rdropWhile_idempotent blankChar (text.dropWhile blankChar)
  change ((text.trim).dropWhile blankChar).rdropWhile blankChar = text.trim
  rw [show (text.trim).dropWhile blankChar = text.trim from left, right]

/-- Nothing is left of a text exactly if it is blank. -/
theorem isBlank_trim_iff (text : Text) : text.trim.isBlank = true ↔ text.trim = [] := by
  constructor
  · intro blank
    have vanishes : text.trim.dropWhile blankChar = [] :=
      List.dropWhile_eq_nil_iff.mpr (List.all_eq_true.mp blank)
    rw [← vanishes]
    exact (dropWhile_trimBy blankChar text).symm
  · intro vanishes
    rw [vanishes]
    rfl

/-- Only blanks are taken off, so a class without blanks keeps all its characters. -/
theorem filter_trim (keep : Char → Bool) (apart : ∀ c, blankChar c = true → keep c = false)
    (text : Text) : text.trim.filter keep = text.filter keep := by
  have front (other : Text) : (other.dropWhile blankChar).filter keep = other.filter keep := by
    induction other with
    | nil => rfl
    | cons c rest ih =>
        by_cases blank : blankChar c = true
        · simp only [List.dropWhile_cons, blank, ↓reduceIte, List.filter_cons, apart c blank,
            Bool.false_eq_true, ih]
        · simp only [List.dropWhile_cons, blank, ↓reduceIte, Bool.false_eq_true]
  simp only [trim, trimBy, List.filter_reverse, front, List.reverse_reverse]

theorem isBlank_iff_filter (text : Text) :
    text.isBlank = true ↔ (text.filter fun c => !blankChar c) = [] := by
  simp [isBlank]

theorem isBlank_trim (text : Text) : text.trim.isBlank = text.isBlank := by
  rw [Bool.eq_iff_iff, isBlank_iff_filter, isBlank_iff_filter,
    filter_trim _ (fun c blank => by simp [blank])]

theorem mem_of_mem_trim {c : Char} {text : Text} (member : c ∈ text.trim) : c ∈ text := by
  have inner := List.dropWhile_subset blankChar (List.mem_reverse.mp member)
  exact List.dropWhile_subset blankChar (List.mem_reverse.mp inner)

theorem length_trim_le (text : Text) : text.trim.length ≤ text.length := by
  have back := List.length_dropWhile_le blankChar (text.dropWhile blankChar).reverse
  have front := List.length_dropWhile_le blankChar text
  rw [List.length_reverse] at back
  rw [trim, trimBy, List.length_reverse]
  exact Nat.le_trans back front

theorem trim_dropWhile (text : Text) : trim (text.dropWhile blankChar) = text.trim := by
  simp only [trim, trimBy_eq, List.dropWhile_idempotent]

theorem trim_concat (text : Text) {c : Char} (blank : blankChar c = true) :
    trim (text ++ [c]) = text.trim := by
  simp only [trim, trimBy_eq, List.dropWhile_append, List.isEmpty_iff]
  split
  · next vanishes => simp [blank, vanishes]
  · exact List.rdropWhile_concat_pos _ _ _ blank

theorem trim_rdropWhile (text : Text) : trim (text.rdropWhile blankChar) = text.trim := by
  induction text using List.reverseRecOn with
  | nil => rfl
  | append_singleton front last ih =>
      by_cases blank : blankChar last = true
      · rw [List.rdropWhile_concat_pos _ _ _ blank, ih, trim_concat front blank]
      · rw [List.rdropWhile_concat_neg _ _ _ blank]

theorem dropWhile_append_mark (drop : Char → Bool) {mark : Char} (kept : drop mark = false)
    (front back : Text) :
    (front ++ mark :: back).dropWhile drop = front.dropWhile drop ++ mark :: back := by
  induction front with
  | nil => simp [kept]
  | cons c rest ih =>
      by_cases dropped : drop c = true
      · simp only [List.cons_append, List.dropWhile_cons, dropped, ↓reduceIte, ih]
      · simp only [List.cons_append, List.dropWhile_cons, dropped, Bool.false_eq_true, ↓reduceIte]

/-- On the two sides of a mark, only the outer blanks are taken off. -/
theorem trim_append_mark {mark : Char} (kept : blankChar mark = false) (left right : Text) :
    trim (left ++ mark :: right) =
      left.dropWhile blankChar ++ mark :: right.rdropWhile blankChar := by
  rw [trim, trimBy, dropWhile_append_mark blankChar kept, List.reverse_append, List.reverse_cons,
    List.append_assoc, List.singleton_append, dropWhile_append_mark blankChar kept]
  simp [List.rdropWhile]

/-- A text is cut at the first occurrence of a mark. -/
theorem splitFirst_append (mark : Char) (left right : Text) (absent : mark ∉ left) :
    splitFirst mark (left ++ mark :: right) = some (left, right) := by
  induction left with
  | nil => simp only [List.nil_append, splitFirst, ↓reduceIte]
  | cons c rest ih =>
      simp only [List.mem_cons, not_or] at absent
      simp only [List.cons_append, splitFirst, Ne.symm absent.1, ↓reduceIte, ih absent.2,
        Option.map_some]

theorem splitFirst_of_notMem (mark : Char) (text : Text) (absent : mark ∉ text) :
    splitFirst mark text = none := by
  induction text with
  | nil => rfl
  | cons c rest ih =>
      simp only [List.mem_cons, not_or] at absent
      simp only [splitFirst, Ne.symm absent.1, ↓reduceIte, ih absent.2, Option.map_none]

end Reckoner.Text
