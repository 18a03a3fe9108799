import Reckoner.Proofs.PostOrder.Substitution

set_option autoImplicit false

/-!
The order in which the tokens of a row are sent on. Each operand and operator is sent on once, and
whatever is sent on before an operand stood before it in the row. Operands therefore keep their
order, and operators only ever move backwards, past what stands behind them.
-/
namespace Reckoner.PostOrder

section Order

variable {before : Token → Token → Prop}

/-- A token that sends on an operand sends on nothing else. -/
theorem step_sole {stack left : Stack} (waits : Waits stack) {token : Token} {sent : List Token}
    (stepped : step stack token = .ok (sent, left)) :
    sent = [token] ∨ ∀ item ∈ sent, item.category.isOperand = false := by
  cases kind : token.category.isOperand with
  | true =>
      rw [step_operand kind] at stepped
      cases stepped
      exact .inl rfl
  | false =>
      have moves := moves_of_run waits (run_single stepped)
      have vanishes : operandsOf sent = [] := by
        rw [moves.operandsOf_sent waits]
        exact List.filter_cons_of_neg (by simp [kind])
      exact .inr fun item member => by simpa using List.filter_eq_nil_iff.mp vanishes item member

/-- What is sent on before an operand comes before it in any order that the row follows, if all
that waits comes before the row. -/
theorem run_behind {stack left : Stack} (waits : Waits stack) {row sent : List Token}
    (ran : run stack row = .ok (sent, left)) (ascending : row.Pairwise before)
    (below : ∀ waiting ∈ stack.filter Token.remains, ∀ token ∈ row, before waiting token) :
    sent.Pairwise fun first second => second.category.isOperand = true → before first second := by
  induction row generalizing stack sent with
  | nil =>
      cases ran
      exact List.Pairwise.nil
  | cons token rest ih =>
      simp only [run, bind_eq_ok_iff, pure_eq_ok, Except.ok.injEq] at ran
      obtain ⟨⟨began, middle⟩, stepped, ⟨later, last⟩, ran, same⟩ := ran
      cases same
      have moves := moves_of_run waits (run_single stepped)
      obtain ⟨first, others⟩ := List.pairwise_cons.mp ascending
      -- The token and all that waited come before the rest, whether they are sent on or wait.
      have origin : ∀ item ∈ began ++ middle.filter Token.remains, ∀ other ∈ rest,
          before item other := by
        intro item member other behind
        rcases List.mem_append.mp (moves.kept.mem_iff.mp member) with waited | read
        · exact below item waited other (List.mem_cons_of_mem token behind)
        · rw [List.mem_singleton.mp (List.mem_filter.mp read).1]
          exact first other behind
      refine List.pairwise_append.mpr ⟨?_, ?_, ?_⟩
      · rcases step_sole waits stepped with rfl | other
        · exact List.pairwise_singleton _ _
        · refine List.pairwise_of_forall_mem_list fun _ _ item member kind => ?_
          rw [other item member] at kind
          cases kind
      · exact ih moves.waits ran others fun waiting member =>
          origin waiting (List.mem_append_right _ member)
      · intro item member operand sentLater kind
        have inside : operand ∈ operandsOf later := List.mem_filter.mpr ⟨sentLater, kind⟩
        rw [run_operandsOf moves.waits ran] at inside
        exact origin item (List.mem_append_left _ member) operand (List.mem_filter.mp inside).1

theorem ofTokens_behind {row sent : List Token} (ordered : ofTokens row = .ok sent)
    (ascending : row.Pairwise before) :
    sent.Pairwise fun first second => second.category.isOperand = true → before first second := by
  obtain ⟨⟨began, left⟩, ran, ordered⟩ := (bind_eq_ok_iff _).mp ordered
  obtain ⟨last, drained, same⟩ := (bind_eq_ok_iff _).mp ordered
  obtain rfl := Except.ok.inj same
  obtain ⟨rfl, operators⟩ := (moves_of_run waits_nil ran).waits.drained drained
  -- Nothing that is sent on at the end is an operand.
  have unread : ∀ token ∈ last, token.category.isOperand ≠ true := by
    intro token member
    obtain ⟨symbol, kind⟩ := (Category.isOperator_eq_true_iff _).mp (operators token member)
    simp [kind, Category.isOperand]
  refine List.pairwise_append.mpr ⟨run_behind waits_nil ran ascending (by simp), ?_, ?_⟩
  · exact List.pairwise_of_forall_mem_list fun _ _ token member kind =>
      absurd kind (unread token member)
  · exact fun _ _ token member kind => absurd kind (unread token member)

theorem ofTokens_operandsOf {row sent : List Token} (ordered : ofTokens row = .ok sent) :
    operandsOf sent = operandsOf row := by
  obtain ⟨⟨began, left⟩, ran, ordered⟩ := (bind_eq_ok_iff _).mp ordered
  obtain ⟨last, drained, same⟩ := (bind_eq_ok_iff _).mp ordered
  obtain rfl := Except.ok.inj same
  have moves := moves_of_run waits_nil ran
  obtain ⟨rfl, -⟩ := moves.waits.drained drained
  rw [operandsOf_append, moves.waits.operandsOf_eq_nil, List.append_nil,
    run_operandsOf waits_nil ran]

end Order

/-- The places of a row in the order in which the tokens at them are sent on. Each place of an
operand or operator is there once, and whatever is sent on before an operand stood before it. -/
structure Arranges (row : List Token) (places : List Nat) (sent : List Token) : Prop where
  tokens : sent.map some = places.map fun place => row[place]?
  once : places.Nodup
  whole : ∀ place, place ∈ places ↔ ∃ token, row[place]? = some token ∧ token.remains = true
  behind : places.Pairwise fun first second =>
    ∀ token, row[second]? = some token → token.category.isOperand = true → first < second

/-! Tokens may be alike, and then it does not show which of them is sent on. Since texts play no
part, each token of a row can have its place for a text, as a row of that many dots. -/

def placed (place : Nat) (token : Token) : Token := ⟨List.replicate place '.', token.category⟩

def placeOf (token : Token) : Nat := token.text.length

/-- The token with the text that a row has at its place. -/
def retold (row : List Token) (token : Token) : Token :=
  ⟨(row[placeOf token]?.map Token.text).getD [], token.category⟩

@[simp] theorem placeOf_placed (place : Nat) (token : Token) :
    placeOf (placed place token) = place :=
  List.length_replicate

@[simp] theorem category_placed (place : Nat) (token : Token) :
    (placed place token).category = token.category := rfl

theorem getElem?_placeOf {row : List Token} {token : Token} (member : token ∈ row.mapIdx placed) :
    row[placeOf token]? = some (retold row token) := by
  obtain ⟨place, inside, rfl⟩ := List.mem_mapIdx.mp member
  simp [retold, inside]

theorem map_retold (row : List Token) : (row.mapIdx placed).map (retold row) = row := by
  refine List.ext_getElem (by simp) fun place _ inside => ?_
  simp [retold, inside]

theorem map_placeOf (row : List Token) :
    (row.mapIdx placed).map placeOf = List.range row.length := by
  refine List.ext_getElem (by simp) fun place _ _ => ?_
  simp

/-- What the row of places sends on tells from which places the tokens of the row are sent on. -/
theorem arranges_places {row out : List Token} (numbered : ofTokens (row.mapIdx placed) = .ok out) :
    Arranges row (out.map placeOf) (out.map (retold row)) := by
  have kept := (nested_of_ofTokens numbered).2
  have member : ∀ token ∈ out, token ∈ row.mapIdx placed := fun token sent =>
    (List.mem_filter.mp (kept.mem_iff.mp sent)).1
  have ascending : ((row.mapIdx placed).map placeOf).Pairwise (· < ·) := by
    rw [map_placeOf]
    exact List.pairwise_lt_range
  refine ⟨?_, ?_, ?_, ?_⟩
  · rw [List.map_map, List.map_map]
    exact List.map_congr_left fun token sent => (getElem?_placeOf (member token sent)).symm
  · rw [(kept.map placeOf).nodup_iff]
    exact (ascending.imp Nat.ne_of_lt).sublist (List.filter_sublist.map placeOf)
  · intro place
    simp only [List.mem_map, kept.mem_iff, List.mem_filter, List.mem_mapIdx]
    constructor
    · rintro ⟨_, ⟨⟨other, inside, rfl⟩, remains⟩, rfl⟩
      exact ⟨row[other], by simp [inside], remains⟩
    · rintro ⟨token, found, remains⟩
      obtain ⟨inside, rfl⟩ := List.getElem?_eq_some_iff.mp found
      exact ⟨_, ⟨⟨place, inside, rfl⟩, remains⟩, placeOf_placed place _⟩
  · have behind := ofTokens_behind numbered (List.pairwise_map.mp ascending)
    rw [List.pairwise_map]
    refine behind.imp_of_mem fun _ sent earlier token found kind => earlier ?_
    rw [getElem?_placeOf (member _ sent)] at found
    cases found
    exact kind

/-- Nothing is lost, doubled or made up on the way to post-order: what is sent on are the operands
and operators of the row, each from a place of its own. The operands keep their order, and all that
is sent on before an operand stood before it in the row, so that no operator overtakes one. -/
theorem ofTokens_arranged {row sent : List Token} (ordered : ofTokens row = .ok sent) :
    sent.Perm (row.filter Token.remains) ∧ operandsOf sent = operandsOf row ∧
      ∃ places, Arranges row places sent := by
  refine ⟨(nested_of_ofTokens ordered).2, ofTokens_operandsOf ordered, ?_⟩
  have relabelled := ofTokens_map (f := retold row) (fun _ => rfl) (row.mapIdx placed)
  rw [map_retold, ordered] at relabelled
  cases numbered : ofTokens (row.mapIdx placed) with
  | error fault =>
      rw [numbered] at relabelled
      cases relabelled
  | ok out =>
      rw [numbered] at relabelled
      obtain rfl := Except.ok.inj relabelled
      exact ⟨out.map placeOf, arranges_places numbered⟩

/-- Two operators that are alike, and the one in the group has no right operand. -/
theorem ofTokens_arranged_alike :
    let a : Token := ⟨['a'], .name⟩
    let minus : Token := ⟨['-'], .operator .subtract⟩
    let opening : Token := ⟨['('], .opening⟩
    let closing : Token := ⟨[')'], .closing⟩
    let row : List Token := [a, minus, opening, a, minus, closing, a]
    let sent : List Token := [a, a, minus, a, minus]
    ofTokens row = .ok sent ∧ sent.Perm (row.filter Token.remains) ∧
      operandsOf sent = [a, a, a] ∧ ∃ places, Arranges row places sent := by
  intro a minus opening closing row sent
  have ordered : ofTokens row = .ok sent := rfl
  obtain ⟨kept, operands, arranged⟩ := ofTokens_arranged ordered
  exact ⟨ordered, kept, operands, arranged⟩

end Reckoner.PostOrder
