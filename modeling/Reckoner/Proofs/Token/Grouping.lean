import Reckoner.Proofs.PostOrder.Run

set_option autoImplicit false

/-!
Parentheses of any row of tokens. The row is put into post-order exactly if its parentheses are
nested, and then its operands and operators are all there, each as often as before.
-/
namespace Reckoner

section Nesting

variable {α : Type} (opens closes : α → Bool)

/-- Going along the row with some open at the start, no more are closed than are open. -/
def Lasts (depth : Nat) (row : List α) : Prop :=
  ∀ front, front <+: row → front.countP closes ≤ depth + front.countP opens

/-- Each that is opened is closed behind it, and nothing else is closed. -/
def Nested (row : List α) : Prop :=
  Lasts opens closes 0 row ∧ row.countP closes = row.countP opens

variable {opens closes}

theorem lasts_nil (depth : Nat) : Lasts opens closes depth [] := by
  intro front start
  rw [List.prefix_nil.mp start]
  exact Nat.zero_le _

/-- Behind its first item, a row starts with as many open as that item leaves open. -/
theorem lasts_cons {depth left : Nat} (item : α) (rest : List α)
    (next : left + [item].countP closes = depth + [item].countP opens) :
    Lasts opens closes depth (item :: rest) ↔ Lasts opens closes left rest := by
  have count (select : α → Bool) (front : List α) :
      (item :: front).countP select = [item].countP select + front.countP select := by
    rw [← List.countP_append, List.singleton_append]
  constructor
  · intro lasts front start
    have whole := lasts (item :: front) (List.cons_prefix_cons.mpr ⟨rfl, start⟩)
    rw [count closes, count opens] at whole
    omega
  · intro lasts front start
    rcases List.prefix_cons_iff.mp start with rfl | ⟨later, rfl, behind⟩
    · exact Nat.zero_le _
    · have inner := lasts later behind
      rw [count closes, count opens]
      omega

theorem not_lasts_of_closes {item : α} (rest : List α) (closed : closes item = true)
    (unopened : opens item = false) : ¬ Lasts opens closes 0 (item :: rest) := by
  intro lasts
  have start := lasts [item] (by simp)
  simp [closed, unopened] at start

theorem not_nested_iff (row : List α) :
    ¬ Nested opens closes row ↔
      (∃ front, front <+: row ∧ front.countP opens < front.countP closes) ∨
        row.countP opens ≠ row.countP closes := by
  rw [Nested, Lasts, Classical.not_and_iff_not_or_not]
  simp only [Classical.not_forall, Nat.zero_add, Nat.not_le, exists_prop, ne_eq,
    eq_comm (a := row.countP closes)]

theorem nested_map {β : Type} (f : β → α) (row : List β) :
    Nested opens closes (row.map f) ↔ Nested (opens ∘ f) (closes ∘ f) row := by
  simp only [Nested, Lasts, List.prefix_map_iff, List.countP_map, forall_exists_index, and_imp]
  constructor
  · intro nested
    obtain ⟨lasts, balance⟩ := nested
    refine ⟨fun front start => ?_, balance⟩
    simpa only [List.countP_map] using lasts _ front start rfl
  · intro nested
    obtain ⟨lasts, balance⟩ := nested
    refine ⟨?_, balance⟩
    rintro front before start rfl
    simpa only [List.countP_map] using lasts before start

end Nesting

namespace Token

def opens (token : Token) : Bool := token.category == .opening

def closes (token : Token) : Bool := token.category == .closing

theorem opens_of_closes {token : Token} (closed : token.closes = true) : token.opens = false := by
  simp [opens, eq_of_beq closed]

/-- The token is an operand or an operator, and has its place in post-order. -/
def remains (token : Token) : Bool := token.category.isOperand || token.category.isOperator

end Token

namespace PostOrder

def Waits (stack : Stack) : Prop :=
  ∀ waiting ∈ stack, waiting.category.isOperator = true ∨ waiting.category = .opening

theorem waits_nil : Waits [] := nofun

/-- What a row of tokens does to the stack. As many parentheses wait as are open, and all operands
and operators are sent on or wait. -/
structure Moves (stack : Stack) (row sent : List Token) (left : Stack) : Prop where
  waits : Waits left
  depth : left.countP Token.opens + row.countP Token.closes =
    stack.countP Token.opens + row.countP Token.opens
  kept : (sent ++ left.filter Token.remains).Perm
    (stack.filter Token.remains ++ row.filter Token.remains)

theorem Moves.append {stack middle left : Stack} {front back sent later : List Token}
    (first : Moves stack front sent middle) (second : Moves middle back later left) :
    Moves stack (front ++ back) (sent ++ later) left where
  waits := second.waits
  depth := by
    have before := first.depth
    have after := second.depth
    simp only [List.countP_append]
    omega
  kept := by
    have behind := second.kept.append_left sent
    have whole := first.kept.append_right (back.filter Token.remains)
    simp only [List.filter_append, List.append_assoc] at behind whole ⊢
    exact behind.trans whole

section Operators

variable {held : Stack} (operators : ∀ waiting ∈ held, waiting.category.isOperator = true)

include operators

theorem filter_operators : held.filter Token.remains = held := by
  apply List.filter_eq_self.mpr
  intro waiting member
  simp [Token.remains, operators waiting member]

theorem countP_operators : held.countP Token.opens = 0 := by
  rw [List.countP_eq_zero]
  intro waiting member opened
  have kind := eq_of_beq opened
  have operator := operators waiting member
  rw [kind] at operator
  cases operator

end Operators

variable {stack : Stack} {token : Token}

theorem Waits.held (waits : Waits stack) : ∀ waiting ∈ stack.takeWhile inside,
    waiting.category.isOperator = true := by
  intro waiting member
  have stops : inside waiting = true := List.all_eq_true.mp List.all_takeWhile waiting member
  rcases waits waiting (List.takeWhile_subset _ member) with operator | opening
  · exact operator
  · simp [inside, opening] at stops

/-- An operator calls up operators only, since parentheses bind weaker. -/
theorem Waits.yielding (waits : Waits stack) {symbol : Operator}
    (kind : token.category = .operator symbol) : ∀ waiting ∈ stack.takeWhile (yields token),
    waiting.category.isOperator = true := by
  intro waiting member
  have strong : yields token waiting = true :=
    List.all_eq_true.mp List.all_takeWhile waiting member
  rcases waits waiting (List.takeWhile_subset _ member) with operator | opening
  · exact operator
  · have positive := symbol.precedence_pos
    simp only [yields, kind, opening, Category.precedence, decide_eq_true_eq] at strong
    omega

theorem moves_noise (waits : Waits stack) (kind : token.category = .noise) :
    Moves stack [token] [] stack where
  waits := waits
  depth := by simp [Token.opens, Token.closes, kind]
  kept := by simp [Token.remains, kind, Category.isOperand, Category.isOperator]

theorem moves_operand (waits : Waits stack) (kind : token.category.isOperand = true) :
    Moves stack [token] [token] stack where
  waits := waits
  depth := by
    have unopened : token.opens = false := by
      cases category : token.category <;> simp_all [Token.opens, Category.isOperand]
    have unclosed : token.closes = false := by
      cases category : token.category <;> simp_all [Token.closes, Category.isOperand]
    simp [unopened, unclosed]
  kept := by
    have remains : token.remains = true := by simp [Token.remains, kind]
    simpa [remains] using (List.perm_append_singleton token _).symm

theorem moves_opening (waits : Waits stack) (kind : token.category = .opening) :
    Moves stack [token] [] (token :: stack) where
  waits := List.forall_mem_cons.mpr ⟨.inr kind, waits⟩
  depth := by simp [Token.opens, Token.closes, kind]
  kept := by simp [Token.remains, kind, Category.isOperand, Category.isOperator]

theorem moves_operator (waits : Waits stack) {symbol : Operator}
    (kind : token.category = .operator symbol) :
    Moves stack [token] (stack.takeWhile (yields token))
      (token :: stack.dropWhile (yields token)) := by
  have operators := waits.yielding kind
  have parts := List.takeWhile_append_dropWhile (p := yields token) (l := stack)
  generalize stack.takeWhile (yields token) = held at operators parts
  generalize stack.dropWhile (yields token) = below at parts
  subst parts
  have remains : token.remains = true := by simp [Token.remains, kind, Category.isOperator]
  refine ⟨?_, ?_, ?_⟩
  · refine List.forall_mem_cons.mpr ⟨.inl (by rw [kind]; rfl), ?_⟩
    exact fun waiting member => waits waiting (List.mem_append_right held member)
  · simp [countP_operators operators, Token.opens, Token.closes, kind]
  · simp only [List.filter_cons, remains, ↓reduceIte, List.filter_append, List.filter_nil,
      filter_operators operators, List.append_assoc]
    exact (List.perm_append_singleton token _).symm.append_left held

/-- A closing parenthesis takes the innermost opening one from the stack. -/
theorem moves_closing {opening : Token} {below : Stack} (waits : Waits stack)
    (parts : stack.dropWhile inside = opening :: below) (kind : token.category = .closing) :
    Moves stack [token] (stack.takeWhile inside) below := by
  have operators := waits.held
  have stops : inside opening = false := by
    simpa [parts] using List.head?_dropWhile_not inside stack
  have whole := List.takeWhile_append_dropWhile (p := inside) (l := stack)
  rw [parts] at whole
  generalize stack.takeWhile inside = held at operators whole
  subst whole
  have opens : opening.category = .opening := by simpa [inside] using stops
  refine ⟨fun waiting member => waits waiting (by simp [member]), ?_, ?_⟩
  · simp [countP_operators operators, Token.opens, Token.closes, opens, kind]
  · simp [filter_operators operators, Token.remains, opens, kind, Category.isOperand,
      Category.isOperator]

/-- One token is refused exactly if it closes what is not open. -/
theorem step_moves (waits : Waits stack) (token : Token) :
    (token.closes = true ∧ stack.countP Token.opens = 0 ∧
        step stack token = .error (.invalidExpression .unbalancedGroups)) ∨
      ∃ sent left, step stack token = .ok (sent, left) ∧ Moves stack [token] sent left := by
  cases kind : token.category with
  | noise =>
      exact .inr ⟨_, _, by simp only [step, kind], moves_noise waits kind⟩
  | numeral =>
      exact .inr ⟨_, _, by simp only [step, kind], moves_operand waits (by rw [kind]; rfl)⟩
  | name =>
      exact .inr ⟨_, _, by simp only [step, kind], moves_operand waits (by rw [kind]; rfl)⟩
  | opening =>
      exact .inr ⟨_, _, by simp only [step, kind], moves_opening waits kind⟩
  | operator symbol =>
      exact .inr ⟨_, _, by simp only [step, kind], moves_operator waits kind⟩
  | closing =>
      cases parts : stack.dropWhile inside with
      | nil =>
          refine .inl ⟨by simp [Token.closes, kind], ?_, by simp only [step, kind, parts]⟩
          have whole := List.takeWhile_append_dropWhile (p := inside) (l := stack)
          rw [parts, List.append_nil] at whole
          rw [← whole]
          exact countP_operators waits.held
      | cons opening below =>
          exact .inr ⟨_, _, by simp only [step, kind, parts], moves_closing waits parts kind⟩

/-- What waits at the end is sent on if no parenthesis is open. -/
theorem drain_cases (waits : Waits stack) :
    (0 < stack.countP Token.opens ∧
        drain stack = .error (.invalidExpression .unbalancedGroups)) ∨
      (stack.countP Token.opens = 0 ∧ stack.filter Token.remains = stack ∧
        drain stack = .ok stack) := by
  by_cases group : ∃ waiting ∈ stack, waiting.category.isGroup = true
  · have refused : (stack.any fun waiting => waiting.category.isGroup) = true :=
      List.any_eq_true.mpr group
    obtain ⟨waiting, member, kind⟩ := group
    have opening : waiting.category = .opening :=
      (waits waiting member).resolve_left fun operator => by
        cases category : waiting.category <;> simp_all [Category.isGroup, Category.isOperator]
    refine .inl ⟨List.countP_pos_iff.mpr ⟨waiting, member, ?_⟩, ?_⟩
    · simp [Token.opens, opening]
    · simp only [drain, refused, ↓reduceIte]
  · have operators : ∀ waiting ∈ stack, waiting.category.isOperator = true :=
      fun waiting member => (waits waiting member).resolve_right fun opening =>
        group ⟨waiting, member, by rw [opening]; rfl⟩
    exact .inr ⟨countP_operators operators, filter_operators operators, drain_operators operators⟩

/-- A row of tokens is refused exactly if it closes more than is open. -/
theorem run_moves (waits : Waits stack) (row : List Token) :
    (¬ Lasts Token.opens Token.closes (stack.countP Token.opens) row ∧
        run stack row = .error (.invalidExpression .unbalancedGroups)) ∨
      (Lasts Token.opens Token.closes (stack.countP Token.opens) row ∧
        ∃ sent left, run stack row = .ok (sent, left) ∧ Moves stack row sent left) := by
  induction row generalizing stack with
  | nil => exact .inr ⟨lasts_nil _, [], stack, rfl, waits, rfl, by simp⟩
  | cons token rest ih =>
      rcases step_moves waits token with
        ⟨closed, vanishes, refused⟩ | ⟨sent, left, stepped, moves⟩
      · refine .inl ⟨?_, by simp only [run, refused, error_bind]⟩
        rw [vanishes]
        exact not_lasts_of_closes rest closed (Token.opens_of_closes closed)
      · rw [lasts_cons token rest moves.depth]
        rcases ih moves.waits with ⟨short, refused⟩ | ⟨enough, later, held, ran, behind⟩
        · exact .inl ⟨short, by simp only [run, stepped, refused, ok_bind, error_bind]⟩
        · refine .inr ⟨enough, sent ++ later, held, ?_, moves.append behind⟩
          simp only [run, stepped, ran, ok_bind, pure_eq_ok]

theorem moves_of_run (waits : Waits stack) {row sent : List Token} {left : Stack}
    (ran : run stack row = .ok (sent, left)) : Moves stack row sent left := by
  rcases run_moves waits row with ⟨-, refused⟩ | ⟨-, out, last, same, moves⟩
  · rw [refused] at ran
    cases ran
  · rw [same] at ran
    cases ran
    exact moves

theorem Waits.drained (waits : Waits stack) {last : List Token} (drained : drain stack = .ok last) :
    last = stack ∧ ∀ waiting ∈ stack, waiting.category.isOperator = true := by
  rcases drain_cases waits with ⟨-, refused⟩ | ⟨closed, -, same⟩
  · rw [refused] at drained
    cases drained
  · rw [same] at drained
    cases drained
    refine ⟨rfl, fun waiting member => (waits waiting member).resolve_right fun opening => ?_⟩
    exact List.countP_eq_zero.mp closed waiting member (by simp [Token.opens, opening])

/-- A row of tokens is put into post-order exactly if its parentheses are nested. Then its operands
and operators are there, and nothing else. -/
theorem ofTokens_cases (row : List Token) :
    (¬ Nested Token.opens Token.closes row ∧
        ofTokens row = .error (.invalidExpression .unbalancedGroups)) ∨
      (Nested Token.opens Token.closes row ∧
        ∃ sent, ofTokens row = .ok sent ∧ sent.Perm (row.filter Token.remains)) := by
  rcases run_moves waits_nil row with ⟨short, refused⟩ | ⟨enough, sent, left, ran, moves⟩
  · exact .inl ⟨fun nested => short nested.1, by simp only [ofTokens, refused, error_bind]⟩
  have depth := moves.depth
  simp only [List.countP_nil, Nat.zero_add] at depth
  rcases drain_cases moves.waits with ⟨open_, refused⟩ | ⟨vanishes, operators, drained⟩
  · refine .inl ⟨fun nested => ?_, by simp only [ofTokens, ran, refused, ok_bind, error_bind]⟩
    have balance := nested.2
    omega
  · have kept := moves.kept
    rw [operators] at kept
    refine .inr ⟨⟨enough, by omega⟩, sent ++ left, ?_, by simpa using kept⟩
    simp only [ofTokens, ran, drained, ok_bind, pure_eq_ok]

theorem nested_of_ofTokens {row sent : List Token} (ordered : ofTokens row = .ok sent) :
    Nested Token.opens Token.closes row ∧ sent.Perm (row.filter Token.remains) := by
  rcases ofTokens_cases row with ⟨-, refused⟩ | ⟨nested, out, same, kept⟩
  · rw [refused] at ordered
    cases ordered
  · obtain rfl := Except.ok.inj (same.symm.trans ordered)
    exact ⟨nested, kept⟩

/-- A row of tokens is refused for its parentheses only: if at some point more of them are closed
than were opened, or if the whole row does not have as many of either kind. -/
theorem ofTokens_eq_error_iff (row : List Token) (fault : Fault) :
    ofTokens row = .error fault ↔
      fault = .invalidExpression .unbalancedGroups ∧
        ((∃ front, front <+: row ∧ front.countP Token.opens < front.countP Token.closes) ∨
          row.countP Token.opens ≠ row.countP Token.closes) := by
  rw [← not_nested_iff]
  rcases ofTokens_cases row with ⟨unnested, refused⟩ | ⟨nested, sent, ordered, -⟩
  · rw [refused, Except.error.injEq, and_iff_left unnested, eq_comm]
  · rw [ordered]
    exact iff_of_false nofun fun refusal => refusal.2 nested

end PostOrder

end Reckoner
