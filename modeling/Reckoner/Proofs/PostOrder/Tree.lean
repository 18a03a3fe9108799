import Reckoner.Proofs.PostOrder.Run

set_option autoImplicit false

/-!
Trees of tokens. Whatever row of tokens a tree is written as, the operators that the row leaves
waiting are those of its right edge, and together with what it has sent on they are the tree in
post-order.
-/
namespace Reckoner

/-- An expression whose operands and operators are tokens. A sign may have a single operand. -/
inductive TokenTree where
  | operand (token : Token)
  | signed (sign : Token) (right : TokenTree)
  | binary (left : TokenTree) (operator : Token) (right : TokenTree)
  deriving Repr, DecidableEq

namespace TokenTree

/-- The operands of each operator from left to right, then the operator. -/
def postOrder : TokenTree → List Token
  | .operand token => [token]
  | .signed sign right => right.postOrder ++ [sign]
  | .binary left operator right => left.postOrder ++ right.postOrder ++ [operator]

/-- The tree is written as the row, and what stands outside the parentheses of the row binds at
least as strong as the level. Any part of a tree may be put in parentheses. Without them, the left
operand of an operator binds at least as strong as the operator and its right operand stronger. A
sign with a single operand binds like any other, so that it comes first in the row or in a group. -/
inductive Written : Int → TokenTree → List Token → Prop where
  | operand {level : Int} {token : Token} (kind : token.category.isOperand = true) :
      Written level (.operand token) [token]
  | group {level : Int} {tree : TokenTree} {row : List Token} {opening closing : Token}
      (opens : opening.category = .opening) (closes : closing.category = .closing)
      (inner : Written 1 tree row) : Written level tree (opening :: (row ++ [closing]))
  | signed {level : Int} {sign : Token} {right : TokenTree} {row : List Token}
      (kind : sign.category.isSign = true) (low : level ≤ sign.category.precedence)
      (inner : Written (sign.category.precedence + 1) right row) :
      Written level (.signed sign right) (sign :: row)
  | binary {level : Int} {left right : TokenTree} {operator : Token} {front back : List Token}
      (kind : operator.category.isOperator = true) (low : level ≤ operator.category.precedence)
      (first : Written operator.category.precedence left front)
      (second : Written (operator.category.precedence + 1) right back) :
      Written level (.binary left operator right) (front ++ operator :: back)

end TokenTree

namespace PostOrder

theorem precedence_of_isOperator {token : Token} (operator : token.category.isOperator = true) :
    0 < token.category.precedence := by
  obtain ⟨symbol, kind⟩ := (Category.isOperator_eq_true_iff _).mp operator
  rw [kind, Category.precedence_operator]
  exact symbol.precedence_pos

/-- What a row leaves waiting on top of a stack: operators that bind at least as strong as the
level, which make up the post-order of the tree together with what was sent on. -/
structure Leaves (level : Int) (tree : TokenTree) (sent : List Token) (held : Stack) : Prop where
  whole : sent ++ held = tree.postOrder
  operators : ∀ waiting ∈ held, waiting.category.isOperator = true
  strong : ∀ waiting ∈ held, level ≤ waiting.category.precedence

/-- The root of a tree waits below the operators that its right operand leaves. -/
theorem Leaves.root {level : Int} {tree right : TokenTree} {operator : Token}
    {before sent : List Token} {held : Stack}
    (behind : Leaves (operator.category.precedence + 1) right sent held)
    (kind : operator.category.isOperator = true) (low : level ≤ operator.category.precedence)
    (parts : tree.postOrder = before ++ right.postOrder ++ [operator]) :
    Leaves level tree (before ++ sent) (held ++ [operator]) where
  whole := by rw [parts, ← behind.whole, List.append_assoc, List.append_assoc, List.append_assoc]
  operators := by
    intro waiting member
    rcases List.mem_append.mp member with later | last
    · exact behind.operators waiting later
    · rw [List.mem_singleton.mp last]
      exact kind
  strong := by
    intro waiting member
    rcases List.mem_append.mp member with later | last
    · have := behind.strong waiting later
      omega
    · rw [List.mem_singleton.mp last]
      exact low

/-- The row of a tree on a stack whose top binds weaker than the tree. -/
theorem run_written {level : Int} {tree : TokenTree} {row : List Token}
    (written : tree.Written level row) (positive : 0 < level) (stack : Stack)
    (weak : ∀ waiting ∈ stack.head?, waiting.category.precedence < level) :
    ∃ sent held, run stack row = .ok (sent, held ++ stack) ∧ Leaves level tree sent held := by
  -- The stack varies: a parenthesis starts again at level one, above the opening one.
  induction written generalizing stack with
  | @operand level token kind =>
      exact ⟨[token], [], run_single (step_operand kind stack), rfl, nofun, nofun⟩
  | @group level tree row opening closing opens closes inner ih =>
      have bottom : opening.category.precedence < 1 := by
        rw [opens]
        decide
      obtain ⟨sent, held, ran, leaves⟩ :=
        ih (by decide) (opening :: stack) (by simpa using bottom)
      have closed := step_closing opens closes held stack leaves.operators
      have ended := run_append ran (run_single closed)
      refine ⟨sent ++ held, [], ?_, ?_, nofun, nofun⟩
      · simpa using run_cons (step_opening opens stack) ended
      · rw [List.append_nil, leaves.whole]
  | @signed level sign right row kind low inner ih =>
      have operator : sign.category.isOperator = true := by
        cases category : sign.category <;> simp_all [Category.isSign, Category.isOperator]
      have pushed : step stack sign = .ok ([], sign :: stack) :=
        step_operator operator [] stack nofun
          fun waiting starts => by have := weak waiting starts; omega
      obtain ⟨sent, held, ran, leaves⟩ := ih (by omega) (sign :: stack)
        (by simp only [List.head?_cons, Option.mem_some_iff, forall_eq']; omega)
      have rooted : Leaves level (.signed sign right) ([] ++ sent) (held ++ [sign]) :=
        leaves.root operator low rfl
      refine ⟨sent, held ++ [sign], ?_, rooted⟩
      simpa using run_cons pushed ran
  | @binary level left right operator front back kind low first second firstIH secondIH =>
      have positive' := precedence_of_isOperator kind
      have below : ∀ waiting ∈ stack.head?,
          waiting.category.precedence < operator.category.precedence :=
        fun waiting starts => by have := weak waiting starts; omega
      obtain ⟨sent, held, leftRan, leftLeaves⟩ := firstIH positive' stack below
      have pushed := step_operator kind held stack leftLeaves.strong below
      obtain ⟨later, kept, rightRan, rightLeaves⟩ := secondIH (by omega) (operator :: stack)
        (by simp only [List.head?_cons, Option.mem_some_iff, forall_eq']; omega)
      refine ⟨sent ++ held ++ later, kept ++ [operator], ?_, ?_⟩
      · simpa using run_append leftRan (run_cons pushed rightRan)
      · refine rightLeaves.root kind low ?_
        rw [leftLeaves.whole]
        rfl

/-- A row that a tree is written as is put into the post-order of the tree. -/
theorem ofTokens_written {tree : TokenTree} {row : List Token} (written : tree.Written 1 row) :
    ofTokens row = .ok tree.postOrder := by
  obtain ⟨sent, held, ran, leaves⟩ := run_written written (by decide) [] (by simp)
  rw [List.append_nil] at ran
  rw [ofTokens_of_run ran leaves.operators, leaves.whole]

/-- A sign before a product comes first in the row, and one behind a minus in a group. -/
theorem ofTokens_written_signs :
    let a : Token := ⟨['a'], .name⟩
    let two : Token := ⟨['2'], .numeral⟩
    let x : Token := ⟨['x'], .name⟩
    let times : Token := ⟨['*'], .operator .multiply⟩
    let plus : Token := ⟨['-', '-'], .operator .add⟩
    let minus : Token := ⟨['-'], .operator .subtract⟩
    let opening : Token := ⟨['('], .opening⟩
    let closing : Token := ⟨[')'], .closing⟩
    let tree : TokenTree := .binary (.signed minus (.binary (.operand a) times (.operand two)))
      minus (.signed plus (.binary (.operand two) minus (.operand x)))
    let row : List Token := [minus, a, times, opening, opening, two, closing, closing, minus,
      opening, plus, opening, two, minus, x, closing, closing]
    tree.Written 1 row ∧
      ofTokens row = .ok [a, two, times, minus, two, x, minus, plus, minus] := by
  intro a two x times plus minus opening closing tree row
  have twice : TokenTree.Written 3 (.operand two) [opening, opening, two, closing, closing] :=
    @TokenTree.Written.group _ _ [opening, two, closing] _ _ rfl rfl
      (@TokenTree.Written.group _ _ [two] _ _ rfl rfl (.operand rfl))
  have product : TokenTree.Written 2 (.binary (.operand a) times (.operand two))
      [a, times, opening, opening, two, closing, closing] :=
    @TokenTree.Written.binary _ _ _ _ [a] _ rfl (by decide) (.operand rfl) twice
  have difference : TokenTree.Written 1 (.binary (.operand two) minus (.operand x))
      [two, minus, x] :=
    @TokenTree.Written.binary _ _ _ _ [two] _ rfl (by decide) (.operand rfl) (.operand rfl)
  have grouped : TokenTree.Written 2 (.binary (.operand two) minus (.operand x))
      [opening, two, minus, x, closing] :=
    @TokenTree.Written.group _ _ [two, minus, x] _ _ rfl rfl difference
  have right : TokenTree.Written 2 (.signed plus (.binary (.operand two) minus (.operand x)))
      [opening, plus, opening, two, minus, x, closing, closing] :=
    @TokenTree.Written.group _ _ [plus, opening, two, minus, x, closing] _ _ rfl rfl
      (.signed rfl (by decide) grouped)
  have written : tree.Written 1 row :=
    @TokenTree.Written.binary _ _ _ _
      [minus, a, times, opening, opening, two, closing, closing] _ rfl (by decide)
      (.signed rfl (by decide) product) right
  exact ⟨written, ofTokens_written written⟩

end PostOrder

end Reckoner
