import Reckoner.Proofs.Expression.Spelling

set_option autoImplicit false

/-!
Expressions printed on a line. Whatever parentheses and blanks are put in, and however the signs
are written, the line shows the value of the expression, or the first fault on the way to it. A
sign in front of the line applies to its first term, as if zero stood before it.
-/
namespace Reckoner

/-- A form without superfluous parentheses, in parentheses itself if it binds weaker than the
level. -/
def Tree.write (level : Int) : Tree → Form
  | .operand text => if text.all Text.digit then .numeral text else .name text
  | .unary sign right =>
      let form := Form.signed sign [sign.mark] (right.write 2)
      if level ≤ 1 then form else .group form
  | .binary symbol left right =>
      let form := Form.binary (left.write symbol.precedence) symbol [symbol.mark]
        (right.write (symbol.precedence + 1))
      if level ≤ symbol.precedence then form else .group form

namespace Form

/-- The form is the tree as it may be written where operators have to bind at least as strong as
the level. At level one it makes a line. -/
structure Prints (level : Int) (form : Form) (tree : Tree) : Prop where
  binds : form.Binds level
  regular : ∀ token ∈ form.tokens, token.Regular
  whole : form.tree = tree

/-- Puts something before the first term of a form. -/
def lead (start : Form → Form) : Form → Form
  | .binary left symbol run right =>
      if symbol.isSign then .binary (left.lead start) symbol run right
      else start (.binary left symbol run right)
  | form => start form

/-- A form behind a sign that applies to its first term. -/
def behindSign (sign : Operator) (run : Text) (form : Form) : Form :=
  form.lead (.signed sign run)

/-- A form behind a sign that has zero on its left. -/
def behindZero (sign : Operator) (run : Text) (form : Form) : Form :=
  form.lead (.binary (.numeral ['0']) sign run)

section Lead

variable (start : Form → Form)

theorem tokens_lead (front : List Token)
    (added : ∀ form, (start form).tokens = front ++ form.tokens) (form : Form) :
    (form.lead start).tokens = front ++ form.tokens := by
  induction form with
  | numeral digits => exact added _
  | name letters => exact added _
  | group inner ih => exact added _
  | signed sign run right ih => exact added _
  | binary left symbol run right first second =>
      unfold lead
      split
      · rw [tokens, first, List.append_assoc]
        rfl
      · exact added _

/-- Without signs that lack a left operand, the first term binds stronger than any sign. -/
theorem binds_lead (strong : ∀ form : Form, form.Binds 2 → (start form).Binds 1) (form : Form)
    (clear : form.Clear true) (binds : form.Binds 1) : (form.lead start).Binds 1 := by
  induction form with
  | numeral digits => exact strong _ trivial
  | name letters => exact strong _ trivial
  | group inner ih => exact strong _ binds
  | signed sign run right ih => cases clear.1
  | binary left symbol run right first second =>
      obtain ⟨low, leftBinds, rightBinds⟩ := binds
      unfold lead
      split
      · next sign =>
          have one := Operator.precedence_of_isSign sign
          rw [one] at leftBinds
          exact ⟨low, by rw [one]; exact first clear.1 leftBinds, rightBinds⟩
      · next other =>
          have two : 2 ≤ symbol.precedence := by
            cases symbol <;> first | decide | exact absurd rfl other
          exact strong _ ⟨two, leftBinds, rightBinds⟩

theorem clear_of_clear (form : Form) (clear : form.Clear true) : form.Clear false := by
  induction form with
  | numeral digits => trivial
  | name letters => trivial
  | group inner ih => exact ih clear
  | signed sign run right ih => cases clear.1
  | binary left symbol run right first second => exact ⟨first clear.1, clear.2⟩

theorem clear_behindSign (sign : Operator) (run : Text) (form : Form) (clear : form.Clear true) :
    (form.behindSign sign run).Clear false := by
  induction form with
  | numeral digits => exact ⟨rfl, trivial⟩
  | name letters => exact ⟨rfl, trivial⟩
  | group inner ih => exact ⟨rfl, inner.clear_of_clear clear⟩
  | signed other text right ih => cases clear.1
  | binary left symbol text right first second =>
      unfold behindSign lead
      split
      · exact ⟨first clear.1, clear.2⟩
      · exact ⟨rfl, left.clear_of_clear clear.1, clear.2⟩

end Lead

theorem compute_behindSign (limits : Limits) (memory : Variables) (sign : Operator)
    (isSign : sign.isSign = true) (run : Text) (form : Form) :
    (form.behindSign sign run).tree.compute limits memory =
      (form.behindZero sign run).tree.compute limits memory := by
  induction form with
  | numeral digits => exact Tree.compute_unary isSign _
  | name letters => exact Tree.compute_unary isSign _
  | group inner ih => exact Tree.compute_unary isSign _
  | signed other text right ih => exact Tree.compute_unary isSign _
  | binary left symbol text right first second =>
      unfold behindSign behindZero at first ⊢
      unfold lead
      split
      · simp only [tree, Tree.compute, first]
      · exact Tree.compute_unary isSign _

namespace Prints

variable {level : Int} {form inner left right : Form} {tree first second : Tree}

theorem numeral {digits : Text} (regular : Token.Regular ⟨digits, .numeral⟩) :
    (Form.numeral digits).Prints level (.operand digits) :=
  ⟨trivial, fun token member => by rw [List.mem_singleton.mp member]; exact regular, rfl⟩

theorem name {letters : Text} (regular : Token.Regular ⟨letters, .name⟩) :
    (Form.name letters).Prints level (.operand letters) :=
  ⟨trivial, fun token member => by rw [List.mem_singleton.mp member]; exact regular, rfl⟩

theorem group (prints : inner.Prints 1 tree) : (Form.group inner).Prints level tree where
  binds := prints.binds
  regular := by
    intro token member
    simp only [tokens, List.mem_cons, List.mem_append, List.not_mem_nil, or_false] at member
    rcases member with rfl | inside | rfl
    · rfl
    · exact prints.regular token inside
    · rfl
  whole := prints.whole

theorem signed {sign : Operator} {run : Text} (isSign : sign.isSign = true) (low : level ≤ 1)
    (regular : Token.Regular ⟨run, .operator sign⟩) (prints : right.Prints 2 tree) :
    (Form.signed sign run right).Prints level (.unary sign tree) where
  binds := ⟨isSign, low, prints.binds⟩
  regular := by
    intro token member
    rcases List.mem_cons.mp member with rfl | later
    · exact regular
    · exact prints.regular token later
  whole := by rw [Form.tree, prints.whole]

theorem binary {symbol : Operator} {run : Text} (low : level ≤ symbol.precedence)
    (regular : Token.Regular ⟨run, .operator symbol⟩)
    (leftPrints : left.Prints symbol.precedence first)
    (rightPrints : right.Prints (symbol.precedence + 1) second) :
    (Form.binary left symbol run right).Prints level (.binary symbol first second) where
  binds := ⟨low, leftPrints.binds, rightPrints.binds⟩
  regular := by
    intro token member
    rcases List.mem_append.mp member with before | after
    · exact leftPrints.regular token before
    rcases List.mem_cons.mp after with rfl | later
    · exact regular
    · exact rightPrints.regular token later
  whole := by rw [Form.tree, leftPrints.whole, rightPrints.whole]

/-- Parentheses where they are needed. -/
theorem within {strength : Int} (positive : 1 ≤ strength)
    (prints : ∀ low ≤ strength, form.Prints low tree) :
    (if level ≤ strength then form else .group form).Prints level tree := by
  split
  · next low => exact prints level low
  · exact (prints 1 positive).group

theorem proper (prints : form.Prints level tree) : tree.Proper := by
  obtain ⟨binds, regular, rfl⟩ := prints
  induction form generalizing level with
  | numeral digits =>
      have own : Category.numeral.Admits digits := regular ⟨digits, .numeral⟩ (by simp [tokens])
      exact ⟨own.1, .inl own.2⟩
  | name letters =>
      have own : Category.name.Admits letters := regular ⟨letters, .name⟩ (by simp [tokens])
      exact ⟨own.1, .inr own.2⟩
  | group inner ih => exact ih binds fun token member => regular token (by simp [tokens, member])
  | signed sign run right ih =>
      exact ⟨binds.1, ih binds.2.2 fun token member => regular token (by simp [tokens, member])⟩
  | binary left symbol run right first second =>
      exact ⟨first binds.2.1 fun token member => regular token (by simp [tokens, member]),
        second binds.2.2 fun token member => regular token (by simp [tokens, member])⟩

end Prints

end Form

theorem Tree.write_prints (tree : Tree) (proper : tree.Proper) (level : Int) :
    (tree.write level).Prints level tree := by
  induction tree generalizing level with
  | operand text =>
      obtain ⟨nonempty, kind⟩ := proper
      unfold write
      split
      · next digits => exact .numeral ⟨nonempty, by simpa using digits⟩
      · next mixed =>
          exact .name ⟨nonempty, kind.resolve_left fun digits => mixed (by simpa using digits)⟩
  | unary sign right ih =>
      exact .within (by decide) fun low bound =>
        .signed proper.1 bound (Token.regular_mark sign) (ih proper.2 2)
  | binary symbol left right first second =>
      exact .within symbol.precedence_pos fun low bound =>
        .binary bound (Token.regular_mark symbol) (first proper.1 _) (second proper.2 _)

namespace Form

variable {form : Form} {tree : Tree} {sign : Operator} {run : Text}

theorem tokens_behindSign : (form.behindSign sign run).tokens =
    ⟨run, .operator sign⟩ :: form.tokens :=
  form.tokens_lead _ [⟨run, .operator sign⟩] fun _ => rfl

theorem tokens_behindZero : (form.behindZero sign run).tokens =
    Token.zero :: ⟨run, .operator sign⟩ :: form.tokens :=
  form.tokens_lead _ [Token.zero, ⟨run, .operator sign⟩] fun _ => rfl

/-- Without signs that lack a left operand, a form is read as it is meant. -/
theorem Prints.clear (prints : form.Prints 1 tree) (plain : tree.Plain) : form.Clear true := by
  rw [← form.plain_tree_iff, prints.whole]
  exact plain

theorem Prints.behindSign (prints : form.Prints 1 tree) (plain : tree.Plain)
    (isSign : sign.isSign = true) (regular : Token.Regular ⟨run, .operator sign⟩) :
    (form.behindSign sign run).Prints 1 (form.behindSign sign run).tree where
  binds := form.binds_lead (.signed sign run) (fun right strong => ⟨isSign, Int.le_refl 1, strong⟩)
    (prints.clear plain) prints.binds
  regular := by
    intro token member
    rw [tokens_behindSign] at member
    rcases List.mem_cons.mp member with rfl | later
    · exact regular
    · exact prints.regular token later
  whole := rfl

theorem Prints.behindZero (prints : form.Prints 1 tree) (plain : tree.Plain)
    (isSign : sign.isSign = true) (regular : Token.Regular ⟨run, .operator sign⟩) :
    (form.behindZero sign run).Prints 1 (form.behindZero sign run).tree where
  binds := by
    have one := Operator.precedence_of_isSign isSign
    refine form.binds_lead _ (fun right strong => ?_) (prints.clear plain) prints.binds
    exact ⟨sign.precedence_pos, trivial, by rw [one]; exact strong⟩
  regular := by
    intro token member
    rw [tokens_behindZero] at member
    rcases List.mem_cons.mp member with rfl | behind
    · decide
    rcases List.mem_cons.mp behind with rfl | later
    · exact regular
    · exact prints.regular token later
  whole := rfl

end Form

namespace Calculator

/-- The line shows the value of the expression or, if there is none, the message of the first
fault on the way to it. It changes no variable. -/
structure Answers (limits : Limits) (memory : Variables) (text : Text) (tree : Tree) : Prop where
  value : ∀ value, tree.value limits memory = some value →
    line limits memory text = ((toString value).toList, memory)
  fault : tree.value limits memory = none → ∃ fault,
    tree.outcome limits memory = .error fault ∧ line limits memory text = (fault.message, memory)

theorem answers_of_line {limits : Limits} {memory : Variables} {text : Text} {tree : Tree}
    (proper : tree.Proper)
    (shows : line limits memory text = (shown (tree.outcome limits memory), memory)) :
    Answers limits memory text tree := by
  constructor
  · intro value found
    rw [shows, (Tree.outcome_eq_ok_iff tree proper value).mpr found]
    rfl
  · intro absent
    cases outcome : tree.outcome limits memory with
    | ok value =>
        rw [(Tree.outcome_eq_ok_iff tree proper value).mp outcome] at absent
        cases absent
    | error fault => exact ⟨fault, rfl, by rw [shows, outcome]; rfl⟩

/-- Expressions on a line. Every expression can be written on one, and however it is written, the
line answers it. Behind one more sign, the line answers the expression that the same tokens make
with zero in front of that sign. -/
theorem line_printed (limits : Limits) (tree : Tree) (proper : tree.Proper) (plain : tree.Plain) :
    (∃ form : Form, form.Prints 1 tree) ∧
    ∀ form : Form, form.Prints 1 tree → ∀ (memory : Variables) (text : Text),
      text.trim.length ≤ limits.maxInputLength →
      (Token.Spells form.tokens text → Answers limits memory text tree) ∧
      ∀ (sign : Operator) (run : Text), sign.isSign = true →
        Token.Regular ⟨run, .operator sign⟩ →
        Token.Spells (⟨run, .operator sign⟩ :: form.tokens) text →
        let zeroed := form.behindZero sign run
        zeroed.tokens = Token.zero :: ⟨run, .operator sign⟩ :: form.tokens ∧
          zeroed.Prints 1 zeroed.tree ∧ Answers limits memory text zeroed.tree := by
  refine ⟨⟨_, tree.write_prints proper 1⟩, ?_⟩
  intro form prints memory text short
  have clear := prints.clear plain
  refine ⟨?_, ?_⟩
  · intro spells
    have shows := line_form limits memory form prints.binds prints.regular text spells short
    rw [form.reading_eq_tree_iff.mpr (form.clear_of_clear clear), prints.whole] at shows
    exact answers_of_line proper shows
  · intro sign run isSign regular spells zeroed
    have signed := prints.behindSign plain isSign regular
    have prints' : zeroed.Prints 1 zeroed.tree := prints.behindZero plain isSign regular
    refine ⟨Form.tokens_behindZero, prints', ?_⟩
    rw [← Form.tokens_behindSign] at spells
    have shows := line_form limits memory _ signed.binds signed.regular text spells short
    rw [(Form.reading_eq_tree_iff _).mpr (form.clear_behindSign sign run clear), Tree.outcome,
      form.compute_behindSign limits memory sign isSign run] at shows
    exact answers_of_line prints'.proper shows

/-- With four for x, a sum in parentheses behind a factor, and the same behind a minus sign. -/
theorem line_printed_product :
    let memory : Variables := ⟨[(['x'], 4)]⟩
    let tree : Tree :=
      .binary .multiply (.operand ['2']) (.binary .add (.operand ['3']) (.operand ['x']))
    tree.Proper ∧ tree.Plain ∧
      line {} memory "2 * (3--x)".toList = ("14".toList, memory) ∧
      line {} memory "- 2 * (3--x)".toList = ("-14".toList, memory) := by
  intro memory tree
  let form : Form := .binary (.numeral ['2']) .multiply ['*']
    (.group (.binary (.numeral ['3']) .add ['-', '-'] (.name ['x'])))
  have prints : form.Prints 1 tree :=
    .binary (by decide) (by decide) (.numeral (by decide))
      (.group (.binary (by decide) (by decide) (.numeral (by decide)) (.name (by decide))))
  have plain : tree.Plain := ⟨trivial, trivial, trivial⟩
  have none : Text.isBlank [] = true := rfl
  have one : Text.isBlank [' '] = true := rfl
  have behind : Token.Spells form.tokens " 2 * (3--x)".toList :=
    .next one (.next one (.next one
      (.next none (.next none (.next none (.next none (.done none)))))))
  have general := (line_printed {} tree prints.proper plain).2 form prints memory
  refine ⟨prints.proper, plain, ?_, ?_⟩
  · have spells : Token.Spells form.tokens "2 * (3--x)".toList :=
      .next none (.next one (.next one
        (.next none (.next none (.next none (.next none (.done none)))))))
    exact ((general _ (by decide)).1 spells).value 14 (by decide)
  · have answers := (general "- 2 * (3--x)".toList (by decide)).2 .subtract ['-'] rfl (by decide)
      (.next none behind)
    exact answers.2.2.value (-14) (by decide)

end Calculator

end Reckoner
