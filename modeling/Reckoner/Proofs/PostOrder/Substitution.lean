import Reckoner.Proofs.PostOrder.Run
import Reckoner.Proofs.Token.Grouping

set_option autoImplicit false

/-!
Groups in place of operands. A group sends on what the tokens inside it send on by themselves and
leaves the stack as it was, so that the tokens around it cannot tell it from an operand.
-/
namespace Reckoner.PostOrder

section Barrier

variable {α : Type} {p : α → Bool} {barrier : α}

theorem takeWhile_append_barrier (stops : p barrier = false) (front back : List α) :
    (front ++ barrier :: back).takeWhile p = front.takeWhile p := by
  induction front with
  | nil => simp [stops]
  | cons item rest ih => simp [List.takeWhile_cons, ih]

theorem dropWhile_append_barrier (stops : p barrier = false) (front back : List α) :
    (front ++ barrier :: back).dropWhile p = front.dropWhile p ++ barrier :: back := by
  induction front with
  | nil => simp [stops]
  | cons item rest ih =>
      by_cases passes : p item = true
      · simp [passes, ih]
      · simp [passes]

end Barrier

section Group

variable {opening closing : Token} (opens : opening.category = .opening)

include opens

/-- What a token does on a stack it does above an opening parenthesis as well, without reaching
below it: no operator is as weak as that, and a closing parenthesis finds another one first. -/
theorem step_above {stack left : Stack} {token : Token} {sent : List Token}
    (stepped : step stack token = .ok (sent, left)) (below : Stack) :
    step (stack ++ opening :: below) token = .ok (sent, left ++ opening :: below) := by
  cases kind : token.category with
  | noise =>
      simp only [step, kind] at stepped ⊢
      cases stepped
      rfl
  | numeral =>
      simp only [step, kind] at stepped ⊢
      cases stepped
      rfl
  | name =>
      simp only [step, kind] at stepped ⊢
      cases stepped
      rfl
  | opening =>
      simp only [step, kind] at stepped ⊢
      cases stepped
      rfl
  | operator symbol =>
      have stops : yields token opening = false := by
        have positive := symbol.precedence_pos
        simp only [yields, kind, opens, Category.precedence, decide_eq_false_iff_not]
        omega
      simp only [step, kind] at stepped ⊢
      rw [takeWhile_append_barrier stops, dropWhile_append_barrier stops]
      cases stepped
      rfl
  | closing =>
      have stops : inside opening = false := by simp [inside, opens]
      simp only [step, kind] at stepped ⊢
      rw [takeWhile_append_barrier stops, dropWhile_append_barrier stops]
      cases parts : stack.dropWhile inside with
      | nil =>
          rw [parts] at stepped
          cases stepped
      | cons other rest =>
          rw [parts] at stepped
          cases stepped
          rfl

theorem run_above {stack left : Stack} {row sent : List Token}
    (ran : run stack row = .ok (sent, left)) (below : Stack) :
    run (stack ++ opening :: below) row = .ok (sent, left ++ opening :: below) := by
  induction row generalizing stack sent with
  | nil =>
      cases ran
      rfl
  | cons token rest ih =>
      simp only [run, bind_eq_ok_iff, pure_eq_ok, Except.ok.injEq] at ran
      obtain ⟨⟨began, middle⟩, stepped, ⟨later, last⟩, ran, same⟩ := ran
      cases same
      exact run_cons (step_above opens stepped below) (ih ran)

/-- A group sends on what is inside it in post-order, and leaves the stack as it was. -/
theorem run_group (closes : closing.category = .closing) {inner sent : List Token}
    (ordered : ofTokens inner = .ok sent) (stack : Stack) :
    run stack (opening :: (inner ++ [closing])) = .ok (sent, stack) := by
  obtain ⟨⟨began, left⟩, ran, ordered⟩ := (bind_eq_ok_iff _).mp ordered
  obtain ⟨last, drained, same⟩ := (bind_eq_ok_iff _).mp ordered
  obtain rfl := Except.ok.inj same
  obtain ⟨rfl, operators⟩ := (moves_of_run waits_nil ran).waits.drained drained
  have inside := run_above opens ran stack
  have closed := run_single (step_closing opens closes last stack operators)
  have whole := run_cons (step_opening opens stack) (run_append inside closed)
  rwa [List.nil_append] at whole

end Group

def operandsOf (row : List Token) : List Token :=
  row.filter fun token => token.category.isOperand

theorem operandsOf_append (front back : List Token) :
    operandsOf (front ++ back) = operandsOf front ++ operandsOf back :=
  List.filter_append ..

theorem operandsOf_remaining (row : List Token) :
    operandsOf (row.filter Token.remains) = operandsOf row := by
  rw [operandsOf, List.filter_filter]
  refine List.filter_congr fun token _ => ?_
  cases operand : token.category.isOperand with
  | true => simp [Token.remains, operand]
  | false => rfl

theorem Waits.operandsOf_eq_nil {stack : Stack} (waits : Waits stack) : operandsOf stack = [] := by
  refine List.filter_eq_nil_iff.mpr fun waiting member operand => ?_
  rcases waits waiting member with operator | opening
  · obtain ⟨symbol, kind⟩ := (Category.isOperator_eq_true_iff _).mp operator
    rw [kind] at operand
    cases operand
  · rw [opening] at operand
    cases operand

theorem Moves.operandsOf_sent {stack left : Stack} {token : Token} {sent : List Token}
    (waits : Waits stack) (moves : Moves stack [token] sent left) :
    operandsOf sent = operandsOf [token] := by
  have kept : (operandsOf (sent ++ left.filter Token.remains)).Perm
      (operandsOf (stack.filter Token.remains ++ [token].filter Token.remains)) :=
    moves.kept.filter _
  simp only [operandsOf_append, operandsOf_remaining, waits.operandsOf_eq_nil,
    moves.waits.operandsOf_eq_nil, List.append_nil, List.nil_append] at kept
  -- There is one operand at most, so that its place among the others cannot change.
  cases kind : token.category.isOperand with
  | true =>
      have single : operandsOf [token] = [token] := List.filter_cons_of_pos kind
      rw [single] at kept ⊢
      exact List.perm_singleton.mp kept
  | false =>
      have vanishes : operandsOf [token] = [] := by simp [operandsOf, kind]
      rw [vanishes] at kept ⊢
      exact kept.eq_nil

theorem run_operandsOf {stack left : Stack} (waits : Waits stack) {row sent : List Token}
    (ran : run stack row = .ok (sent, left)) : operandsOf sent = operandsOf row := by
  induction row generalizing stack sent with
  | nil =>
      cases ran
      rfl
  | cons token rest ih =>
      simp only [run, bind_eq_ok_iff, pure_eq_ok, Except.ok.injEq] at ran
      obtain ⟨⟨began, middle⟩, stepped, ⟨later, last⟩, ran, same⟩ := ran
      cases same
      have moves := moves_of_run waits (run_single stepped)
      rw [operandsOf_append, moves.operandsOf_sent waits, ih moves.waits ran, ← operandsOf_append,
        List.singleton_append]

/-- What is sent on before a place between two rows of tokens, and what behind it. -/
def around (front back : List Token) : Except Fault (List Token × List Token) :=
  run [] front >>= fun first => run first.2 back >>= fun second =>
    drain second.2 >>= fun last => .ok (first.1, second.1 ++ last)

/-- Tokens that leave any stack as it was are sent on at their place. -/
theorem ofTokens_around {middle sent : List Token}
    (settled : ∀ stack, run stack middle = .ok (sent, stack)) (front back : List Token) :
    ofTokens (front ++ (middle ++ back)) =
      (around front back).map fun parts => parts.1 ++ sent ++ parts.2 := by
  simp only [ofTokens, around, run_append_eq]
  cases run [] front with
  | error fault => rfl
  | ok first =>
      simp only [ok_bind, settled]
      cases run first.2 back with
      | error fault => rfl
      | ok second =>
          simp only [ok_bind]
          cases drain second.2 with
          | error fault => rfl
          | ok last => simp [Except.map]

theorem around_operandsOf {front back before after : List Token}
    (parts : around front back = .ok (before, after)) : operandsOf before = operandsOf front := by
  obtain ⟨first, ran, parts⟩ := (bind_eq_ok_iff _).mp parts
  obtain ⟨second, -, parts⟩ := (bind_eq_ok_iff _).mp parts
  obtain ⟨last, -, parts⟩ := (bind_eq_ok_iff _).mp parts
  cases parts
  exact run_operandsOf waits_nil ran

/-- A group takes the place of an operand. For tokens that have a post-order by themselves, a row
with a group of them has one exactly if the row with an operand in its place has one, and then the
two differ in that place only. It has as many operands before it as the place has in the row.
Around a whole row, any number of parentheses change nothing. -/
theorem ofTokens_group {inner sent : List Token} (ordered : ofTokens inner = .ok sent)
    {opening closing : Token} (opens : opening.category = .opening)
    (closes : closing.category = .closing) :
    (∀ (front back : List Token) (operand : Token), operand.category.isOperand = true →
      let grouped := front ++ [opening] ++ inner ++ [closing] ++ back
      let plain := front ++ [operand] ++ back
      ((∃ out, ofTokens grouped = .ok out) ↔ ∃ out, ofTokens plain = .ok out) ∧
      ∀ out, ofTokens plain = .ok out → ∃ before after,
        out = before ++ [operand] ++ after ∧ operandsOf before = operandsOf front ∧
          ofTokens grouped = .ok (before ++ sent ++ after)) ∧
    ∀ depth, ofTokens (List.replicate depth opening ++ inner ++ List.replicate depth closing) =
      .ok sent := by
  constructor
  · intro front back operand kind grouped plain
    have inGroup : ofTokens grouped = (around front back).map fun parts =>
        parts.1 ++ sent ++ parts.2 := by
      rw [← ofTokens_around (run_group opens closes ordered) front back]
      simp [grouped]
    have inPlace : ofTokens plain = (around front back).map fun parts =>
        parts.1 ++ [operand] ++ parts.2 := by
      rw [← ofTokens_around (fun stack => run_single (step_operand kind stack)) front back]
      simp [plain]
    rw [inGroup, inPlace]
    cases placed : around front back with
    | error fault => exact ⟨Iff.rfl, nofun⟩
    | ok parts =>
        refine ⟨iff_of_true ⟨_, rfl⟩ ⟨_, rfl⟩, ?_⟩
        intro out same
        exact ⟨parts.1, parts.2, (Except.ok.inj same).symm, around_operandsOf placed, rfl⟩
  · intro depth
    induction depth with
    | zero => simpa using ordered
    | succ depth ih =>
        have wrapped := ofTokens_around (run_group opens closes ih) [] []
        have empty : around [] [] = .ok ([], []) := rfl
        rw [empty] at wrapped
        rw [List.replicate_succ, List.replicate_succ']
        simpa [Except.map] using wrapped

/-- A group without a right operand stands where another operand of the same name could. -/
theorem ofTokens_group_unfinished :
    let a : Token := ⟨['a'], .name⟩
    let two : Token := ⟨['2'], .numeral⟩
    let plus : Token := ⟨['+'], .operator .add⟩
    let minus : Token := ⟨['-'], .operator .subtract⟩
    let power : Token := ⟨['^'], .operator .power⟩
    let opening : Token := ⟨['('], .opening⟩
    let closing : Token := ⟨[')'], .closing⟩
    ofTokens [a, plus] = .ok [a, plus] ∧ opening.category = .opening ∧
      closing.category = .closing ∧ a.category.isOperand = true ∧
      ofTokens [a, minus, a, power, a, two] = .ok [a, a, a, two, power, minus] ∧
      ofTokens [a, minus, opening, a, plus, closing, power, a, two] =
        .ok [a, a, plus, a, two, power, minus] ∧
      ofTokens [opening, opening, a, plus, closing, closing] = .ok [a, plus] := by
  intro a two plus minus power opening closing
  have ordered : ofTokens [a, plus] = .ok [a, plus] := rfl
  have whole : ofTokens [a, minus, a, power, a, two] = .ok [a, a, a, two, power, minus] := rfl
  obtain ⟨substituted, wrapped⟩ :=
    ofTokens_group ordered (show opening.category = .opening from rfl)
      (show closing.category = .closing from rfl)
  obtain ⟨before, after, parts, place, replaced⟩ :=
    (substituted [a, minus] [power, a, two] a rfl).2 _ whole
  refine ⟨ordered, rfl, rfl, rfl, whole, ?_, wrapped 2⟩
  -- One operand stands before the place, so that it is the second one.
  cases before with
  | nil => cases place
  | cons first rest =>
      cases rest with
      | nil =>
          cases parts
          exact replaced
      | cons next later =>
          obtain ⟨rfl, behind⟩ := List.cons.inj parts
          obtain ⟨rfl, -⟩ := List.cons.inj behind
          cases place

end Reckoner.PostOrder
