import Mathlib.Data.List.Basic
import Reckoner.Text.Lines

set_option autoImplicit false

/-!
Lines of a text. A line end cuts a text, so that the lines before it do not depend on what stands
behind it.
-/
namespace Reckoner.Text

def lineEnd (c : Char) : Bool := c == '\n' || c == '\r'

theorem lines_lineFeed (rest : Text) : lines ('\n' :: rest) = [] :: lines rest := by
  rw [lines.eq_def]
  simp

theorem lines_return {rest : Text} (alone : rest.head? ≠ some '\n') :
    lines ('\r' :: rest) = [] :: lines rest := by
  rw [lines.eq_def]
  split
  · next vanishes => cases vanishes
  · next pair =>
      obtain ⟨-, rfl⟩ := List.cons.inj pair
      exact absurd rfl alone
  · next parts =>
      obtain ⟨rfl, rfl⟩ := List.cons.inj parts
      simp

theorem lines_inner {c : Char} (inner : lineEnd c = false) (rest : Text) :
    lines (c :: rest) = consFirst c (lines rest) := by
  simp only [lineEnd, Bool.or_eq_false_iff, beq_eq_false_iff_ne] at inner
  rw [lines.eq_def]
  split
  · next vanishes => cases vanishes
  · next pair =>
      obtain ⟨rfl, -⟩ := List.cons.inj pair
      exact absurd rfl inner.2
  · next parts =>
      obtain ⟨rfl, rfl⟩ := List.cons.inj parts
      simp [inner.1, inner.2]

theorem consFirst_ne_nil (c : Char) (rows : List Text) : consFirst c rows ≠ [] := by
  cases rows with
  | nil => exact List.cons_ne_nil _ _
  | cons first rest => exact List.cons_ne_nil _ _

theorem lines_ne_nil {text : Text} (nonempty : text ≠ []) : lines text ≠ [] := by
  fun_cases lines text with
  | case1 => exact absurd rfl nonempty
  | case2 rest => exact List.cons_ne_nil _ _
  | case3 c rest single ends => exact List.cons_ne_nil _ _
  | case4 c rest single inner => exact consFirst_ne_nil c _

theorem consFirst_append (c : Char) {rows : List Text} (nonempty : rows ≠ [])
    (more : List Text) : consFirst c (rows ++ more) = consFirst c rows ++ more := by
  cases rows with
  | nil => exact absurd rfl nonempty
  | cons first rest => rfl

theorem lines_append_lineFeed {line : Text} (inner : ∀ c ∈ line, lineEnd c = false)
    (rest : Text) : lines (line ++ '\n' :: rest) = line :: lines rest := by
  induction line with
  | nil => exact lines_lineFeed rest
  | cons c others ih =>
      rw [List.forall_mem_cons] at inner
      rw [List.cons_append, lines_inner inner.1, ih inner.2]
      rfl

/-- Rows without line ends come back as lines, one for each. -/
theorem lines_unlines {rows : List Text} (inner : ∀ row ∈ rows, ∀ c ∈ row, lineEnd c = false) :
    lines (unlines rows) = rows := by
  induction rows with
  | nil => rfl
  | cons row rest ih =>
      rw [List.forall_mem_cons] at inner
      rw [unlines, List.flatMap_cons, List.append_assoc, List.singleton_append,
        lines_append_lineFeed inner.1]
      exact congrArg (row :: ·) (ih inner.2)

theorem length_le_of_mem_consFirst {c : Char} {rows : List Text} {bound : Nat}
    (each : ∀ row ∈ rows, row.length ≤ bound) :
    ∀ row ∈ consFirst c rows, row.length ≤ bound + 1 := by
  cases rows with
  | nil => exact List.forall_mem_singleton.mpr (Nat.le_add_left 1 bound)
  | cons first rest =>
      rw [List.forall_mem_cons] at each
      refine List.forall_mem_cons.mpr ⟨Nat.succ_le_succ each.1, ?_⟩
      exact fun row member => Nat.le_succ_of_le (each.2 row member)

theorem length_le_of_mem_lines {text : Text} : ∀ line ∈ lines text, line.length ≤ text.length := by
  fun_induction lines text with
  | case1 => exact List.forall_mem_nil _
  | case2 rest ih =>
      refine List.forall_mem_cons.mpr ⟨Nat.zero_le _, fun line member => ?_⟩
      exact Nat.le_succ_of_le (Nat.le_succ_of_le (ih line member))
  | case3 c rest single ends ih =>
      refine List.forall_mem_cons.mpr ⟨Nat.zero_le _, fun line member => ?_⟩
      exact Nat.le_succ_of_le (ih line member)
  | case4 c rest single inner ih => exact length_le_of_mem_consFirst ih

/-- What is not empty is a line without a line end behind it, too. -/
theorem lines_unended {line : Text} (inner : ∀ c ∈ line, lineEnd c = false)
    (nonempty : line ≠ []) : lines line = [line] := by
  induction line with
  | nil => exact absurd rfl nonempty
  | cons c others ih =>
      rw [List.forall_mem_cons] at inner
      rw [lines_inner inner.1]
      cases others with
      | nil => rfl
      | cons d more =>
          rw [ih inner.2 (List.cons_ne_nil d more)]
          rfl

/-- The lines up to a line end stay the same whatever follows it. -/
theorem lines_prefix_append {front : Text} (ended : ∀ c ∈ front.getLast?, lineEnd c = true)
    (more : Text) : lines front <+: lines (front ++ more) := by
  fun_induction lines front with
  | case1 => exact List.nil_prefix
  | case2 rest ih =>
      have later : ∀ c ∈ rest.getLast?, lineEnd c = true :=
        fun c last => ended c (List.mem_getLast?_cons (List.mem_getLast?_cons last))
      exact (List.prefix_cons_inj []).mpr (ih later)
  | case3 c rest single ends ih =>
      have later : ∀ d ∈ rest.getLast?, lineEnd d = true :=
        fun d last => ended d (List.mem_getLast?_cons last)
      rw [List.cons_append]
      rcases ends with rfl | rfl
      · rw [lines_lineFeed]
        exact (List.prefix_cons_inj []).mpr (ih later)
      · -- A line feed behind a final carriage return belongs to the same line end.
        by_cases pair : (rest ++ more).head? = some '\n'
        · cases rest with
          | nil =>
              obtain ⟨others, rfl⟩ := List.head?_eq_some_iff.mp pair
              exact (List.prefix_cons_inj []).mpr List.nil_prefix
          | cons d others =>
              obtain rfl : d = '\n' := by simpa using pair
              exact absurd rfl (single others rfl)
        · rw [lines_return pair]
          exact (List.prefix_cons_inj []).mpr (ih later)
  | case4 c rest single inner ih =>
      have inside : lineEnd c = false := by simpa [lineEnd] using inner
      have nonempty : rest ≠ [] := by
        rintro rfl
        simp [inside] at ended
      have later : ∀ d ∈ rest.getLast?, lineEnd d = true :=
        fun d last => ended d (List.mem_getLast?_cons last)
      obtain ⟨others, whole⟩ := ih later
      rw [List.cons_append, lines_inner inside, ← whole,
        consFirst_append c (lines_ne_nil nonempty)]
      exact List.prefix_append _ _

end Reckoner.Text
