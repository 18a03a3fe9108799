import Reckoner.Proofs.Calculator.Operands
import Reckoner.Proofs.Calculator.Result
import Reckoner.Proofs.Evaluation.Stack
import Reckoner.Proofs.Expression.Spelling
import Reckoner.Proofs.Session.Dropping

set_option autoImplicit false

/-!
What an expression reads. It comes to the same with any two states of the variables that agree on
the names in it: not to be told apart are other names, names with a sign, and the order of names.
-/
namespace Reckoner

namespace Evaluation

variable {memory other : Variables} (limits : Limits)

/-- One token does the same to a stack whose operands are looked up alike. -/
theorem step_congr {stack : Stack}
    (alike : ∀ operand ∈ stack, operand.resolve memory = operand.resolve other) (token : Token) :
    step limits memory stack token = step limits other stack token := by
  cases kind : token.category with
  | operator symbol =>
      simp only [step, kind]
      cases stack with
      | nil => rfl
      | cons right rest =>
          have first := alike right (by simp)
          cases rest with
          | nil =>
              simp only [operate, pop, popLeft, popOrZero, first, bind_assoc, pure_eq_ok, ok_bind]
          | cons left below =>
              have second := alike left (by simp)
              simp only [operate, pop, popLeft, popOrZero, first, second, bind_assoc, pure_eq_ok,
                ok_bind]
  | numeral => simp only [step, kind]
  | name => simp only [step, kind]
  | noise => simp only [step, kind]
  | opening => simp only [step, kind]
  | closing => simp only [step, kind]

section Alike

variable {tokens : List Token} (written : ∀ token ∈ tokens, token.category.isOperand = true →
  (Operand.written token.text).resolve memory = (Operand.written token.text).resolve other)

include written

theorem run_congr {stack : Stack}
    (alike : ∀ operand ∈ stack, operand.resolve memory = operand.resolve other) :
    run limits memory stack tokens = run limits other stack tokens := by
  induction tokens generalizing stack with
  | nil => rfl
  | cons token rest ih =>
      rw [List.forall_mem_cons] at written
      rw [run_cons, run_cons, step_congr limits alike token]
      cases stepped : step limits other stack token with
      | error fault => rfl
      | ok left =>
          rw [← step_congr limits alike token] at stepped
          exact ih written.2 (step_forall (fun _ => rfl) written.1 alike stepped)

/-- A row of tokens comes to the same if its operands are looked up alike. Faults come in the same
order too, since an operand is looked up when it is taken. -/
theorem evaluate_congr : evaluate limits memory tokens = evaluate limits other tokens := by
  have same : run limits memory [] tokens = run limits other [] tokens :=
    run_congr limits written (by simp)
  unfold evaluate
  cases ran : run limits memory [] tokens with
  | error fault => rw [← same, ran]; rfl
  | ok left =>
      rw [← same, ran]
      have alike : ∀ operand ∈ left, operand.resolve memory = operand.resolve other :=
        run_forall (fun _ => rfl) written (by simp) ran
      cases left with
      | nil => rfl
      | cons operand rest =>
          have newest := alike operand (by simp)
          simp only [ok_bind, result, newest]

end Alike

end Evaluation

theorem Text.Names.letters {text name : Text} (names : text.Names name) :
    name ≠ [] ∧ ∀ c ∈ name, Text.letter c = true := by
  obtain ⟨row, scanned, member⟩ := names
  exact ((Token.settled_of_scan scanned).regular _ member).letters rfl

namespace Calculator

variable {memory other : Variables} (limits : Limits)

theorem expression_congr {text : Text} (agree : memory.AgreeOn text.Names other) :
    expression limits memory text = expression limits other text := by
  cases ordered : postOrder text with
  | error fault => simp only [expression, ordered]; rfl
  | ok sent =>
      obtain ⟨row, scanned, settled, -, kept⟩ := postOrder_eq_ok ordered
      simp only [expression, ordered, ok_bind]
      apply Evaluation.evaluate_congr limits
      intro token member operand
      have inside : token ∈ row := (List.mem_filter.mp (kept.subset member)).1
      have regular := settled.regular token inside
      rcases (Category.isOperand_eq_true_iff token.category).mp operand with kind | kind
      · rw [regular.resolve_numeral kind memory, regular.resolve_numeral kind other]
      · apply Operand.resolve_congr
        exact agree token.text ⟨row, scanned, by rw [← kind]; exact inside⟩

theorem calculate_congr {text : Text} (absent : '=' ∉ text)
    (agree : memory.AgreeOn text.Names other) :
    (calculate limits memory text).map Prod.fst = (calculate limits other text).map Prod.fst := by
  cases occupied : text.isBlank with
  | true => simp only [calculate_blank _ _ occupied, Except.map]
  | false =>
      by_cases long : limits.maxInputLength < (text.length : Int)
      · simp only [calculate_tooLong _ _ occupied long, Except.map]
      · have short : text.length ≤ limits.maxInputLength := by omega
        rw [calculate_expression limits memory occupied short absent,
          calculate_expression limits other occupied short absent, expression_congr limits agree]
        cases expression limits other text with
        | error fault => rfl
        | ok value => rfl

end Calculator

/-- The tokens of what the calculator gets are those of the request. -/
theorem Route.scan_passed {route : Route} {text passed : Text}
    (takes : route.passed text = some passed) : Token.scan passed = Token.scan text := by
  rcases passed_cases takes with rfl | rfl
  · rfl
  · exact Token.scan_trim text

namespace Session

/-- By every route, the text is answered alike with either state of the variables. -/
def Alike (limits : Limits) (text : Text) (memory other : Variables) : Prop :=
  ∀ route : Route, (step limits memory (route.request text)).1 =
    (step limits other (route.request text)).1

theorem alike_of_agree (limits : Limits) {text : Text} {memory other : Variables}
    (absent : '=' ∉ text) (agree : memory.AgreeOn text.Names other) :
    Alike limits text memory other := by
  intro route
  cases takes : route.passed text with
  | none => rw [step_eq_reply _ _ _ _ takes, step_eq_reply _ _ _ _ takes]
  | some passed =>
      have inner : '=' ∉ passed := fun member => absent (Route.mem_of_mem_passed takes member)
      have named : memory.AgreeOn passed.Names other := by
        intro name names
        obtain ⟨row, scanned, member⟩ := names
        exact agree name ⟨row, (Route.scan_passed takes).symm.trans scanned, member⟩
      rw [answer_of_passed _ _ _ _ _ takes, answer_of_passed _ _ _ _ _ takes,
        Calculator.calculate_congr limits inner named]

/-- An expression is answered alike if the names in it have the same values, or none. So it does
not matter which values names with a sign have, and neither does the order of the names. -/
theorem step_reads (limits : Limits) {text : Text} (absent : '=' ∉ text)
    (memory other : Variables) :
    (memory.AgreeOn text.Names other → Alike limits text memory other) ∧
      (memory.AgreeOn (fun name => name.head? ≠ some '+' ∧ name.head? ≠ some '-') other →
        Alike limits text memory other) ∧
      (memory.names.Nodup → memory.entries.Perm other.entries →
        Alike limits text memory other) := by
  refine ⟨alike_of_agree limits absent, ?_, ?_⟩
  · intro agree
    apply alike_of_agree limits absent
    intro name names
    have letters := names.letters.2
    have unsigned {sign : Char} (other : Text.letter sign = false) : name.head? ≠ some sign := by
      intro starts
      have counts := letters sign (List.mem_of_mem_head? starts)
      rw [other] at counts
      cases counts
    exact agree name ⟨unsigned rfl, unsigned rfl⟩
  · intro distinct same
    apply alike_of_agree limits absent
    exact fun name _ => Table.get?_perm distinct same name

/-- Two names of which one is not set: it does not help that it is set with a sign. -/
theorem step_reads_unset :
    let text : Text := "2 * x - y".toList
    let memory : Variables := ⟨[(['x'], 1), (['-', 'x'], 5)]⟩
    let wider : Variables := ⟨[(['z'], 3), (['x'], 1)]⟩
    let signed : Variables := ⟨[(['x'], 1), (['+', 'y'], 7)]⟩
    let turned : Variables := ⟨[(['-', 'x'], 5), (['x'], 1)]⟩
    '=' ∉ text ∧ memory.AgreeOn text.Names wider ∧ Alike {} text memory wider ∧
      memory.AgreeOn (fun name => name.head? ≠ some '+' ∧ name.head? ≠ some '-') signed ∧
      Alike {} text memory signed ∧
      memory.names.Nodup ∧ memory.entries.Perm turned.entries ∧ Alike {} text memory turned ∧
      (step {} memory (.calculate text)).1 = .refused (.unknownVariable ['y']) := by
  intro text memory wider signed turned
  have absent : '=' ∉ text := by decide
  have named : memory.AgreeOn text.Names wider := by
    intro name names
    obtain ⟨row, scanned, member⟩ := names
    have known : Token.scan text = .ok [⟨['2'], .numeral⟩, ⟨['*'], .operator .multiply⟩,
        ⟨['x'], .name⟩, ⟨['-'], .operator .subtract⟩, ⟨['y'], .name⟩] := by decide
    obtain rfl := Except.ok.inj (known.symm.trans scanned)
    have either : name = ['x'] ∨ name = ['y'] := by simpa using member
    rcases either with rfl | rfl
    · rfl
    · rfl
  have unsigned :
      memory.AgreeOn (fun name => name.head? ≠ some '+' ∧ name.head? ≠ some '-') signed := by
    intro name free
    have minus : name ≠ ['-', 'x'] := fun same => free.2 (by rw [same]; rfl)
    have plus : name ≠ ['+', 'y'] := fun same => free.1 (by rw [same]; rfl)
    simp only [Table.get?, memory, signed, Table.lookup_entry, minus, plus, ↓reduceIte]
  have general (other : Variables) := step_reads {} absent memory other
  exact ⟨absent, named, (general wider).1 named, unsigned, (general signed).2.1 unsigned,
    by decide, by decide, (general turned).2.2 (by decide) (by decide), by decide⟩

end Session

end Reckoner
