import Mathlib.Data.List.Chain
import Mathlib.Data.List.Perm.Subperm
import Reckoner.Proofs.Token.Grouping

set_option autoImplicit false

/-!
How deep the stack of those that wait can get. Opening parentheses cut it into layers of operators,
and within a layer each operator binds stronger than the one below it. There are three strengths,
so the parentheses that are open bound the whole stack.
-/
namespace Reckoner

/-- With at most so many items in a row between those selected, the selected ones bound the whole
list. -/
theorem length_le_of_layers {α : Type} (selects : α → Bool) (most : Nat) (list : List α)
    (layers : ∀ layer, layer <:+: list → layer.countP selects = 0 → layer.length ≤ most) :
    list.length ≤ (most + 1) * list.countP selects + most := by
  generalize amount : list.countP selects = count
  induction count generalizing list with
  | zero =>
      rw [Nat.mul_zero, Nat.zero_add]
      exact layers list (List.infix_refl list) amount
  | succ count ih =>
      obtain ⟨item, found⟩ : ∃ item, list.find? selects = some item := by
        rw [← Option.isSome_iff_exists, List.find?_isSome, ← List.countP_pos_iff]
        omega
      obtain ⟨selected, front, back, rfl, others⟩ := List.find?_eq_some_iff_append.mp found
      have none : front.countP selects = 0 := by
        rw [List.countP_eq_zero]
        intro other member
        simpa using others other member
      have before := layers front (List.prefix_append _ _).isInfix none
      have fewer : back.countP selects = count := by
        simp only [List.countP_append, none, List.countP_cons_of_pos selected] at amount
        omega
      have suffix : back <:+ front ++ item :: back :=
        (List.suffix_cons item back).trans (List.suffix_append _ _)
      have behind := ih back (fun layer inside => layers layer (inside.trans suffix.isInfix)) fewer
      simp only [List.length_append, List.length_cons, Nat.mul_succ]
      omega

namespace Operator

theorem precedence_mem (symbol : Operator) : symbol.precedence ∈ ([1, 2, 3] : List Int) := by
  cases symbol <;> decide

end Operator

namespace PostOrder

def Stronger (newer older : Token) : Prop :=
  older.category.precedence < newer.category.precedence

instance : Trans Stronger Stronger Stronger where
  trans upper lower := Int.lt_trans lower upper

/-- What waits binds stronger than what waits right below it, unless it is an opening
parenthesis. -/
def Climbs (stack : Stack) : Prop :=
  stack.IsChain fun newer older => newer.opens = true ∨ Stronger newer older

theorem climbs_nil : Climbs [] := List.IsChain.nil

variable {stack left : Stack} {token : Token} {row sent : List Token}

/-- A new operator comes to lie on a weaker one, or on a parenthesis, which binds weaker still. -/
theorem Climbs.push (climbs : Climbs stack) (token : Token) :
    Climbs (token :: stack.dropWhile (yields token)) := by
  refine List.isChain_cons.mpr ⟨fun older top => .inr ?_, climbs.suffix (List.dropWhile_suffix _)⟩
  have stops := List.head?_dropWhile_not (yields token) stack
  rw [Option.mem_def.mp top] at stops
  have weaker : ¬ yields token older = true := by simpa using stops
  rw [yields_eq_true_iff] at weaker
  exact Int.lt_of_not_ge weaker

/-- No token puts an operator on one that binds as strong. -/
theorem Climbs.step (climbs : Climbs stack) (stepped : step stack token = .ok (sent, left)) :
    Climbs left := by
  cases kind : token.category with
  | noise | numeral | name =>
      simp only [PostOrder.step, kind, Except.ok.injEq, Prod.mk.injEq] at stepped
      exact stepped.2 ▸ climbs
  | opening =>
      simp only [PostOrder.step, kind, Except.ok.injEq, Prod.mk.injEq] at stepped
      have opens : token.opens = true := by simp [Token.opens, kind]
      exact stepped.2 ▸ List.isChain_cons.mpr ⟨fun _ _ => .inl opens, climbs⟩
  | operator symbol =>
      simp only [PostOrder.step, kind, Except.ok.injEq, Prod.mk.injEq] at stepped
      exact stepped.2 ▸ climbs.push token
  | closing =>
      cases parts : stack.dropWhile inside with
      | nil => simp [PostOrder.step, kind, parts] at stepped
      | cons opening below =>
          simp only [PostOrder.step, kind, parts, Except.ok.injEq, Prod.mk.injEq] at stepped
          have suffix : below <:+ stack.dropWhile inside := parts ▸ List.suffix_cons opening below
          exact stepped.2 ▸ climbs.suffix (suffix.trans (List.dropWhile_suffix _))

theorem Climbs.run (climbs : Climbs stack) (ran : run stack row = .ok (sent, left)) :
    Climbs left := by
  induction row generalizing stack sent with
  | nil =>
      cases ran
      exact climbs
  | cons token rest ih =>
      simp only [PostOrder.run, bind_eq_ok_iff, Prod.exists] at ran
      obtain ⟨first, waiting, stepped, later, behind, ranRest, same⟩ := ran
      cases same
      exact ih (climbs.step stepped) ranRest

/-- Between two opening parentheses the operators climb from each one to the next. -/
theorem Climbs.layer {layer : List Token} (climbs : Climbs stack) (within : layer <:+: stack)
    (unopened : layer.countP Token.opens = 0) : layer.Pairwise Stronger := by
  have closed := List.countP_eq_zero.mp unopened
  have part := List.IsChain.infix climbs within
  have chain := part.imp_of_mem_imp fun newer older inside _ stronger =>
    stronger.resolve_left (closed newer inside)
  exact List.isChain_iff_pairwise.mp chain

theorem length_le_three {layer : List Token}
    (operators : ∀ waiting ∈ layer, waiting.category.isOperator = true)
    (climbs : layer.Pairwise Stronger) : layer.length ≤ 3 := by
  have distinct : (layer.map fun waiting => waiting.category.precedence).Nodup :=
    List.pairwise_map.mpr (climbs.imp fun stronger => Int.ne_of_gt stronger)
  have strengths : (layer.map fun waiting => waiting.category.precedence) ⊆ [1, 2, 3] := by
    intro strength member
    obtain ⟨waiting, inside, rfl⟩ := List.mem_map.mp member
    obtain ⟨symbol, kind⟩ := (Category.isOperator_eq_true_iff _).mp (operators waiting inside)
    rw [kind]
    exact symbol.precedence_mem
  simpa using (distinct.subperm strengths).length_le

/-- After any row of tokens, which may be the part of a longer one that has been read so far, only
operators and opening parentheses wait, and of these as many as the row leaves open. Between them
there are at most three operators, each of which binds stronger than those below it. -/
theorem run_layered (ran : run [] row = .ok (sent, left)) :
    (∀ waiting ∈ left, waiting.category.isOperator = true ∨ waiting.category = .opening) ∧
      left.countP Token.opens + row.countP Token.closes = row.countP Token.opens ∧
      (∀ layer, layer <:+: left → layer.countP Token.opens = 0 →
        layer.Pairwise Stronger ∧ layer.length ≤ 3) ∧
      left.length ≤ 4 * left.countP Token.opens + 3 := by
  have moves := moves_of_run waits_nil ran
  have climbs := climbs_nil.run ran
  have layers (layer : List Token) (within : layer <:+: left)
      (unopened : layer.countP Token.opens = 0) :
      layer.Pairwise Stronger ∧ layer.length ≤ 3 := by
    have climbing := climbs.layer within unopened
    refine ⟨climbing, length_le_three (fun waiting inside => ?_) climbing⟩
    refine (moves.waits waiting (within.subset inside)).resolve_right fun opening => ?_
    exact List.countP_eq_zero.mp unopened waiting inside (by simp [Token.opens, opening])
  refine ⟨moves.waits, ?_, layers, ?_⟩
  · simpa using moves.depth
  · exact length_le_of_layers Token.opens 3 left fun layer within unopened =>
      (layers layer within unopened).2

/-- A group in which an operator calls up another, and a full layer inside and outside of the group
that is still open. -/
theorem run_layered_reached :
    let two : Token := ⟨['2'], .numeral⟩
    let a : Token := ⟨['a'], .name⟩
    let plus : Token := ⟨['+'], .operator .add⟩
    let minus : Token := ⟨['-'], .operator .subtract⟩
    let times : Token := ⟨['*'], .operator .multiply⟩
    let power : Token := ⟨['^'], .operator .power⟩
    let opening : Token := ⟨['('], .opening⟩
    let closing : Token := ⟨[')'], .closing⟩
    let row : List Token := [a, plus, opening, two, times, a, minus, two, closing, times, a, power,
      opening, a, power, two, minus, a, times, two, power]
    let sent : List Token := [a, two, a, times, two, minus, a, a, two, power, a, two]
    let left : Stack := [power, times, minus, opening, power, times, plus]
    run [] row = .ok (sent, left) ∧ left.length = 4 * left.countP Token.opens + 3 ∧
      left.countP Token.opens + row.countP Token.closes = row.countP Token.opens ∧
      [power, times, minus].Pairwise Stronger ∧ [power, times, plus].Pairwise Stronger := by
  intro two a plus minus times power opening closing row sent left
  have ran : run [] row = .ok (sent, left) := rfl
  obtain ⟨-, unmatched, layers, -⟩ := run_layered ran
  have upper := layers [power, times, minus] ⟨[], [opening, power, times, plus], rfl⟩ rfl
  have lower := layers [power, times, plus] ⟨[power, times, minus, opening], [], rfl⟩ rfl
  exact ⟨ran, rfl, unmatched, upper.1, lower.1⟩

def steep : List Token :=
  [⟨['+'], .operator .add⟩, ⟨['*'], .operator .multiply⟩, ⟨['^'], .operator .power⟩]

/-- On a parenthesis, and on the empty stack, they all wait. -/
theorem run_steep (weak : ∀ waiting ∈ stack.head?, waiting.category.precedence < 1) :
    run stack steep = .ok ([], steep.reverse ++ stack) := by
  have waits (symbol : Operator) (text : Text) (stack : Stack)
      (weak : ∀ waiting ∈ stack.head?, waiting.category.precedence < symbol.precedence) :
      PostOrder.step stack ⟨text, .operator symbol⟩ =
        .ok ([], ⟨text, .operator symbol⟩ :: stack) :=
    step_operator rfl [] stack (by simp) weak
  refine run_cons (waits .add _ _ weak) (run_cons (waits .multiply _ _ ?_)
    (run_cons (waits .power _ _ ?_) (run_nil _)))
  · simp [Operator.precedence]
  · simp [Operator.precedence]

/-- However many parentheses are open, the layers can all be full. -/
theorem run_full {opening : Token} (opens : opening.category = .opening) (depth : Nat) :
    ∃ row left, run [] row = .ok ([], left) ∧ left.countP Token.opens = depth ∧
      left.length = 4 * depth + 3 := by
  induction depth with
  | zero => exact ⟨steep, _, run_steep (by simp), rfl, rfl⟩
  | succ depth ih =>
      obtain ⟨row, left, ran, opened, full⟩ := ih
      have weak : ∀ waiting ∈ (opening :: left).head?, waiting.category.precedence < 1 := by
        simp [opens, Category.precedence]
      have behind := run_cons (step_opening opens left) (run_steep weak)
      refine ⟨row ++ opening :: steep, _, run_append ran behind, ?_, ?_⟩
      · simp [steep, Token.opens, opens, opened]
      · simp only [steep, List.length_append, List.length_reverse, List.length_cons,
          List.length_nil]
        omega

end PostOrder

end Reckoner
