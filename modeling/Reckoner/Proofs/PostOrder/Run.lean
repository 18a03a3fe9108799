import Reckoner.Proofs.Outcome
import Reckoner.Proofs.Token.Character
import Reckoner.Token.PostOrder

set_option autoImplicit false

/-!
Rows of tokens on the stack of those that wait. A row may be cut anywhere and run part by part, and
an operator or a closing parenthesis calls up what waits above a weaker token. The texts of the
tokens play no part in this.
-/
namespace Reckoner.PostOrder

theorem run_nil (stack : Stack) : run stack [] = .ok ([], stack) := rfl

theorem run_append_eq (stack : Stack) (front back : List Token) :
    run stack (front ++ back) = run stack front >>= fun first =>
      run first.2 back >>= fun second => .ok (first.1 ++ second.1, second.2) := by
  induction front generalizing stack with
  | nil =>
      rw [List.nil_append, run_nil, ok_bind]
      cases run stack back with
      | error fault => rfl
      | ok second => rfl
  | cons token rest ih =>
      simp only [List.cons_append, run, ih]
      cases step stack token with
      | error fault => rfl
      | ok began =>
          simp only [ok_bind]
          cases run began.2 rest with
          | error fault => rfl
          | ok first =>
              simp only [ok_bind, pure_eq_ok]
              cases run first.2 back with
              | error fault => rfl
              | ok second => simp only [ok_bind, List.append_assoc]

theorem run_cons {stack waiting left : Stack} {token : Token} {rest sent later : List Token}
    (stepped : step stack token = .ok (sent, waiting))
    (ran : run waiting rest = .ok (later, left)) :
    run stack (token :: rest) = .ok (sent ++ later, left) := by
  simp only [run, stepped, ran, ok_bind, pure_eq_ok]

theorem run_single {stack left : Stack} {token : Token} {sent : List Token}
    (stepped : step stack token = .ok (sent, left)) : run stack [token] = .ok (sent, left) := by
  have ran := run_cons stepped (run_nil left)
  rwa [List.append_nil] at ran

theorem run_append {stack waiting left : Stack} {front back sent later : List Token}
    (first : run stack front = .ok (sent, waiting))
    (second : run waiting back = .ok (later, left)) :
    run stack (front ++ back) = .ok (sent ++ later, left) := by
  rw [run_append_eq, first, ok_bind, second, ok_bind]

theorem yields_eq_true_iff (token waiting : Token) : yields token waiting = true ↔
    token.category.precedence ≤ waiting.category.precedence := decide_eq_true_iff

theorem step_operand {token : Token} (operand : token.category.isOperand = true)
    (stack : Stack) : step stack token = .ok ([token], stack) := by
  rcases (Category.isOperand_eq_true_iff _).mp operand with kind | kind
  · simp only [step, kind]
  · simp only [step, kind]

theorem step_opening {token : Token} (opening : token.category = .opening) (stack : Stack) :
    step stack token = .ok ([], token :: stack) := by
  simp only [step, opening]

/-- An operator calls up the operators that wait on top of weaker ones and of parentheses. -/
theorem step_operator {token : Token} (operator : token.category.isOperator = true)
    (held stack : Stack)
    (strong : ∀ waiting ∈ held, token.category.precedence ≤ waiting.category.precedence)
    (weak : ∀ waiting ∈ stack.head?, waiting.category.precedence < token.category.precedence) :
    step (held ++ stack) token = .ok (held, token :: stack) := by
  obtain ⟨symbol, kind⟩ := (Category.isOperator_eq_true_iff _).mp operator
  have called : ∀ waiting ∈ held, yields token waiting = true := by
    intro waiting member
    exact (yields_eq_true_iff _ _).mpr (strong waiting member)
  have stops : stack.takeWhile (yields token) = [] ∧ stack.dropWhile (yields token) = stack := by
    cases stack with
    | nil => exact ⟨rfl, rfl⟩
    | cons waiting below =>
        have weaker := weak waiting rfl
        have kept : ¬ yields token waiting = true := by
          rw [yields_eq_true_iff]
          omega
        exact ⟨List.takeWhile_cons_of_neg kept, List.dropWhile_cons_of_neg kept⟩
  simp only [step, kind, List.takeWhile_append_of_pos called, List.dropWhile_append_of_pos called,
    stops.1, stops.2, List.append_nil]

/-- A closing parenthesis calls up all that waits on top of the opening one. -/
theorem step_closing {opening closing : Token} (opens : opening.category = .opening)
    (closes : closing.category = .closing) (held stack : Stack)
    (operators : ∀ waiting ∈ held, waiting.category.isOperator = true) :
    step (held ++ opening :: stack) closing = .ok (held, stack) := by
  have called : ∀ waiting ∈ held, inside waiting = true := by
    intro waiting member
    obtain ⟨symbol, kind⟩ := (Category.isOperator_eq_true_iff _).mp (operators waiting member)
    simp [inside, kind]
  have stops : inside opening = false := by simp [inside, opens]
  simp [step, closes, List.takeWhile_append_of_pos called, List.dropWhile_append_of_pos called,
    stops]

theorem drain_operators {stack : Stack}
    (operators : ∀ waiting ∈ stack, waiting.category.isOperator = true) :
    drain stack = .ok stack := by
  have ungrouped : (stack.any fun waiting => waiting.category.isGroup) = false := by
    rw [List.any_eq_false]
    intro waiting member
    obtain ⟨symbol, kind⟩ := (Category.isOperator_eq_true_iff _).mp (operators waiting member)
    simp [kind, Category.isGroup]
  simp only [drain, ungrouped, Bool.false_eq_true, ↓reduceIte]

theorem ofTokens_of_run {row sent : List Token} {left : Stack}
    (ran : run [] row = .ok (sent, left))
    (operators : ∀ waiting ∈ left, waiting.category.isOperator = true) :
    ofTokens row = .ok (sent ++ left) := by
  simp only [ofTokens, ran, ok_bind, drain_operators operators, pure_eq_ok]

section Relabelled

variable {f : Token → Token} (same : ∀ token, (f token).category = token.category)

include same

theorem step_map (stack : Stack) (token : Token) :
    step (stack.map f) (f token) =
      (step stack token).map fun moved => (moved.1.map f, moved.2.map f) := by
  have yielding : yields (f token) ∘ f = yields token := by
    funext waiting
    simp only [Function.comp_apply, yields, same]
  have stopping : inside ∘ f = inside := by
    funext waiting
    simp only [Function.comp_apply, inside, same]
  simp only [step, same, List.takeWhile_map, List.dropWhile_map, yielding, stopping]
  cases token.category with
  | noise => rfl
  | numeral => rfl
  | name => rfl
  | opening => rfl
  | operator symbol => rfl
  | closing =>
      cases stack.dropWhile inside with
      | nil => rfl
      | cons opening below => rfl

theorem run_map (stack : Stack) (row : List Token) :
    run (stack.map f) (row.map f) =
      (run stack row).map fun moved => (moved.1.map f, moved.2.map f) := by
  induction row generalizing stack with
  | nil => rfl
  | cons token rest ih =>
      simp only [List.map_cons, run, step_map same]
      cases step stack token with
      | error fault => rfl
      | ok moved =>
          simp only [Except.map, ok_bind, ih]
          cases run moved.2 rest with
          | error fault => rfl
          | ok later => simp only [ok_bind, pure_eq_ok, List.map_append]

theorem drain_map (stack : Stack) : drain (stack.map f) = (drain stack).map (List.map f) := by
  simp only [drain, List.any_map, Function.comp_def, same]
  split
  · rfl
  · rfl

/-- Post-order looks at the categories of tokens alone. -/
theorem ofTokens_map (row : List Token) :
    ofTokens (row.map f) = (ofTokens row).map (List.map f) := by
  have ran := run_map same [] row
  rw [List.map_nil] at ran
  simp only [ofTokens, ran]
  cases run [] row with
  | error fault => rfl
  | ok moved =>
      simp only [Except.map, ok_bind, drain_map same]
      cases drain moved.2 with
      | error fault => rfl
      | ok last => simp only [ok_bind, pure_eq_ok, List.map_append]

end Relabelled

end Reckoner.PostOrder
