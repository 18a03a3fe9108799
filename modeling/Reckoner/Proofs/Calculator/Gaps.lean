import Reckoner.Proofs.Calculator.Display
import Reckoner.Proofs.Evaluation.Depth

set_option autoImplicit false

/-!
Operators without their operands. The stack of operands does not tell where an operand stood, so
that an operator may take one that was written for another place. In a row of tokens as many
operands as are missing are made up for by those to spare, which are operands next to each other
and left operands of signs. A line that lacks more than it can spare is refused.
-/
namespace Reckoner

namespace Token

/-- An operand ends with the token, be it a single one or a group. -/
def ends (token : Token) : Bool := token.category.isOperand || token.closes

def starts (token : Token) : Bool := token.category.isOperand || token.opens

/-- How many operands a row lacks: one before each operator that always takes two, before each
closing parenthesis and at the end, unless an operand ends there. It is told whether one ends just
before the row. -/
def missing (ended : Bool) : List Token → Nat
  | [] => if ended then 0 else 1
  | token :: rest =>
      (if !ended && (token.category.needsTwo || token.closes) then 1 else 0) +
        missing token.ends rest

/-- How many operands a row could do without: each that a sign or another operand follows. -/
def spare (ended : Bool) : List Token → Nat
  | [] => 0
  | token :: rest =>
      (if ended && (token.category.isSign || token.starts) then 1 else 0) + spare token.ends rest

/-- An operator of the row lacks an operand that it cannot do without. It always takes two, and
nothing, an opening parenthesis or another operator stands before it; or nothing or a closing
parenthesis stands behind it. -/
def Gapped (row : List Token) : Prop :=
  ∃ front operator back, row = front ++ operator :: back ∧
    ((operator.category.needsTwo = true ∧ ∀ last ∈ front.getLast?,
        last.category = .opening ∨ last.category.isOperator = true) ∨
      (operator.category.isOperator = true ∧ ∀ next ∈ back.head?, next.category = .closing))

/-- Each operator finds as many operands as it needs when the row is evaluated. -/
def Suffices (row : List Token) : Prop :=
  ∃ sent, PostOrder.ofTokens row = .ok sent ∧ Evaluation.Supplied 0 sent

theorem ends_of_isOperator {token : Token} (operator : token.category.isOperator = true) :
    token.ends = false := by
  obtain ⟨symbol, kind⟩ := (Category.isOperator_eq_true_iff _).mp operator
  simp [ends, closes, kind, Category.isOperand]

theorem ends_of_opening {token : Token} (opening : token.category = .opening) :
    token.ends = false := by
  simp [ends, closes, opening, Category.isOperand]

theorem isOperator_of_needsTwo {token : Token} (two : token.category.needsTwo = true) :
    token.category.isOperator = true := by
  cases kind : token.category with
  | operator symbol => rfl
  | _ => simp [kind, Category.needsTwo] at two

/-- A token that is not noise adds as much on one side of the balance as on the other. -/
theorem token_balance (ended : Bool) {token : Token} (counts : token.category ≠ .noise) :
    (if token.category.isOperand then 1 else 0) +
          (if !ended && (token.category.needsTwo || token.closes) then 1 else 0) +
        (if ended then 1 else 0) =
      (if token.category.needsTwo then 1 else 0) +
          (if ended && (token.category.isSign || token.starts) then 1 else 0) +
        (if token.ends then 1 else 0) := by
  obtain ⟨text, category⟩ := token
  cases category with
  | noise => exact absurd rfl counts
  | operator symbol => cases symbol <;> cases ended <;> rfl
  | _ => cases ended <;> rfl

/-- Between operands and operators that take two, what is missing and what is to spare are in
balance: the row is one operand or more, put together by such operators. -/
theorem operands_balance (ended : Bool) (row : List Token)
    (counts : ∀ token ∈ row, token.category ≠ .noise) :
    row.countP (·.category.isOperand) + missing ended row + (if ended then 1 else 0) =
      row.countP (·.category.needsTwo) + 1 + spare ended row := by
  induction row generalizing ended with
  | nil => cases ended <;> rfl
  | cons token rest ih =>
      rw [List.forall_mem_cons] at counts
      have first := token_balance ended counts.1
      have others := ih token.ends counts.2
      rw [List.countP_cons, List.countP_cons, missing, spare]
      omega

theorem missing_behind (ended : Bool) (front back : List Token) :
    missing ((front.getLast?.map ends).getD ended) back ≤ missing ended (front ++ back) := by
  induction front generalizing ended with
  | nil => exact Nat.le_refl _
  | cons token rest ih =>
      have later := ih token.ends
      -- The last token of the longer front is that of the rest, or this one if nothing follows.
      rw [List.getLast?_cons, Option.map_some, Option.getD_some, List.cons_append, missing]
      cases last : rest.getLast? with
      | none =>
          rw [last, Option.map_none, Option.getD_none] at later
          rw [Option.getD_none]
          omega
      | some final =>
          rw [last, Option.map_some, Option.getD_some] at later
          rw [Option.getD_some]
          omega

theorem Gapped.isOperator {row : List Token} (gapped : Gapped row) :
    ∃ token ∈ row, token.category.isOperator = true := by
  obtain ⟨front, operator, back, rfl, gap⟩ := gapped
  refine ⟨operator, by simp, ?_⟩
  rcases gap with ⟨two, -⟩ | ⟨kind, -⟩
  · exact isOperator_of_needsTwo two
  · exact kind

theorem missing_pos {row : List Token} (gapped : Gapped row) : 0 < missing false row := by
  obtain ⟨front, operator, back, rfl, ⟨two, before⟩ | ⟨kind, behind⟩⟩ := gapped
  · have unended : (front.getLast?.map ends).getD false = false := by
      cases last : front.getLast? with
      | none => rfl
      | some token =>
          rcases before token last with opening | operator
          · exact ends_of_opening opening
          · exact ends_of_isOperator operator
    have lacks := missing_behind false front (operator :: back)
    rw [unended, missing, two] at lacks
    simp only [Bool.not_false, Bool.true_or, Bool.and_self, ↓reduceIte] at lacks
    omega
  · have lacks := missing_behind false front (operator :: back)
    have last : 0 < missing false back := by
      cases back with
      | nil => exact Nat.one_pos
      | cons next rest =>
          have closing : next.closes = true := beq_iff_eq.mpr (behind next rfl)
          rw [missing, closing, Bool.or_true]
          exact Nat.add_pos_left Nat.one_pos _
    rw [missing, ends_of_isOperator kind] at lacks
    omega

end Token

/-- A row that comes to a value has had enough operands for all its operators, and one is left. So
it can spare as many as it is missing. -/
theorem Evaluation.missing_le_spare {limits : Limits} {memory : Variables} {row sent : List Token}
    {value : Int} (counts : ∀ token ∈ row, token.category ≠ .noise)
    (kept : sent.Perm (row.filter Token.remains))
    (evaluated : evaluate limits memory sent = .ok (some value)) :
    Token.missing false row ≤ Token.spare false row := by
  obtain ⟨left, ran, resolved⟩ := (bind_eq_ok_iff _).mp evaluated
  obtain ⟨supplied, deep⟩ := run_depth ran
  have occupied : 0 < left.length := by
    cases left with
    | nil => cases resolved
    | cons operand below => exact Nat.succ_pos _
  have enough := foldl_depthAfter_le supplied
  -- Post-order keeps the counts of operands and of operators that take two.
  have used (select : Token → Bool) (narrow : ∀ token, select token = true → token.remains = true) :
      sent.countP select = row.countP select := by
    rw [kept.countP_eq, List.countP_filter]
    congr
    funext token
    cases chosen : select token with
    | false => rfl
    | true => rw [narrow token chosen, Bool.and_self]
  have operands := used (·.category.isOperand) fun token kind => by simp [Token.remains, kind]
  have operators := used (·.category.needsTwo) fun token kind => by
    simp [Token.remains, Token.isOperator_of_needsTwo kind]
  have balance := Token.operands_balance false row counts
  simp only [Bool.false_eq_true, ↓reduceIte] at balance
  rw [← deep, operands, operators] at enough
  simp only [List.length_nil] at enough
  omega

namespace Calculator

variable (limits : Limits) (memory : Variables)

/-- The line shows the message of a fault and changes no variable. -/
def ShowsFault (text : Text) : Prop :=
  ∃ fault : Fault, line limits memory text = (fault.message, memory)

/-- The line shows a number and changes no variable. -/
def ShowsValue (text : Text) : Prop :=
  ∃ value, line limits memory text = (Decimal.ofInt value, memory)

theorem ShowsValue.not_showsFault {limits : Limits} {memory : Variables} {text : Text}
    (shows : ShowsValue limits memory text) :
    ¬ ShowsFault limits memory text := by
  obtain ⟨value, number⟩ := shows
  rintro ⟨fault, message⟩
  have same := congrArg Prod.fst (number.symm.trans message)
  exact Display.decimal_ne_message (Decimal.ofInt_canonical value) fault same

/-- Without an equals sign, a line that is not too long shows what its expression comes to. -/
theorem line_of_expression {text : Text} (absent : '=' ∉ text)
    (short : text.trim.length ≤ limits.maxInputLength) {value : Option Int}
    (done : expression limits memory text = .ok value) :
    line limits memory text = (showValue value, memory) := by
  have inner := fun member => absent (Text.mem_of_mem_trim member)
  simp only [line, calculate_plain limits memory short inner, expression_trim, done, ok_bind,
    pure_eq_ok]

/-- It shows a fault in any other case. -/
theorem line_plain {text : Text} (absent : '=' ∉ text) :
    ShowsFault limits memory text ∨ ∃ value, expression limits memory text = .ok value ∧
      line limits memory text = (showValue value, memory) := by
  cases occupied : text.trim.isBlank with
  | true =>
      refine .inr ⟨none, ?_, ?_⟩
      · rw [← expression_trim, expression_blank limits memory occupied]
      · simp only [line, calculate_blank limits memory occupied]
  | false =>
      by_cases long : limits.maxInputLength < (text.trim.length : Int)
      · refine .inl ⟨.invalidExpression (.tooLong text.trim.length), ?_⟩
        simp only [line, calculate_tooLong limits memory occupied long]
      · have short : text.trim.length ≤ limits.maxInputLength := by omega
        cases done : expression limits memory text with
        | ok value => exact .inr ⟨value, rfl, line_of_expression limits memory absent short done⟩
        | error fault =>
            have inner := fun member => absent (Text.mem_of_mem_trim member)
            have whole := calculate_plain limits memory short inner
            refine .inl ⟨fault, ?_⟩
            simp only [line, whole, expression_trim, done, error_bind]

theorem expression_eq_ok_iff {text : Text} {row : List Token} (scanned : Token.scan text = .ok row)
    (value : Option Int) : expression limits memory text = .ok value ↔
      ∃ sent, PostOrder.ofTokens row = .ok sent ∧
        Evaluation.evaluate limits memory sent = .ok value := by
  simp only [expression, postOrder, scanned, ok_bind, bind_eq_ok_iff]

/-- In a line whose operands have values, with neither quotients nor powers, all that can go wrong
is that an operator finds too few operands. -/
theorem expression_of_suffices {text : Text} {row : List Token}
    (scanned : Token.scan text = .ok row)
    (names : ∀ token ∈ row, token.category = .name → ∃ value, memory.get? token.text = some value)
    (operators : ∀ token ∈ row,
      token.category ≠ .operator .divide ∧ token.category ≠ .operator .power)
    (enough : Token.Suffices row) : ∃ value, expression limits memory text = .ok value := by
  obtain ⟨sent, ordered, supplied⟩ := enough
  have settled := Token.settled_of_scan scanned
  have inside : ∀ token ∈ sent, token ∈ row := fun token member =>
    (List.mem_filter.mp ((PostOrder.nested_of_ofTokens ordered).2.subset member)).1
  have operands : ∀ token ∈ sent, token.category.isOperand = true →
      Evaluation.Resolves memory (.written token.text) := by
    intro token member operand
    have regular := settled.regular token (inside token member)
    rcases (Category.isOperand_eq_true_iff _).mp operand with kind | kind
    · exact ⟨_, regular.resolve_numeral kind memory⟩
    · obtain ⟨value, found⟩ := names token (inside token member) kind
      exact ⟨value, (regular.resolve_name_eq_ok_iff kind memory value).mpr found⟩
  rcases Evaluation.evaluate_total limits operands
      (fun token member => operators token (inside token member)) with
    ⟨-, value, evaluated⟩ | ⟨short, -⟩
  · exact ⟨value, (expression_eq_ok_iff limits memory scanned value).mpr ⟨sent, ordered, evaluated⟩⟩
  · exact absurd supplied short

/-- Where an operand is missing, the expression comes to a value only if each operator finds
enough operands, which takes as many to spare as are missing. -/
theorem expression_gapped {text : Text} {row : List Token} (scanned : Token.scan text = .ok row)
    (gapped : Token.Gapped row) {value : Option Int}
    (done : expression limits memory text = .ok value) :
    (∃ number, value = some number) ∧ Token.Suffices row ∧
      Token.missing false row ≤ Token.spare false row := by
  obtain ⟨sent, ordered, evaluated⟩ := (expression_eq_ok_iff limits memory scanned value).mp done
  have kept := (PostOrder.nested_of_ofTokens ordered).2
  cases value with
  | some number =>
      obtain ⟨left, ran, -⟩ := (bind_eq_ok_iff _).mp evaluated
      have counts := fun token member =>
        ((Token.settled_of_scan scanned).regular token member).ne_noise
      exact ⟨⟨number, rfl⟩, ⟨sent, ordered, (Evaluation.run_depth ran).1⟩,
        Evaluation.missing_le_spare counts kept evaluated⟩
  | none =>
      have idle := (Evaluation.evaluate_eq_none_iff limits memory sent).mp evaluated
      obtain ⟨operator, member, kind⟩ := gapped.isOperator
      have unused := (PostOrder.unused_iff kept).mp idle operator member
      simp [Token.remains, kind] at unused

/-- A line with an operator that lacks an operand. It shows either a fault or a number, and a
number only if each operator finds enough operands on the stack, for which the row needs to spare
as many operands as it is missing. If all names are set, with neither quotients nor powers, that is
all it takes for the line to show a number, unless it is too long. So the gap goes unnoticed where
operands that were written for other places make up for it. -/
theorem line_gapped (limits : Limits) (memory : Variables) {text : Text} {row : List Token}
    (absent : '=' ∉ text) (scanned : Token.scan text = .ok row) (gapped : Token.Gapped row) :
    0 < Token.missing false row ∧
      (ShowsFault limits memory text ↔ ¬ ShowsValue limits memory text) ∧
      (Token.spare false row < Token.missing false row → ShowsFault limits memory text) ∧
      (¬ Token.Suffices row → ShowsFault limits memory text) ∧
      ((∀ token ∈ row, token.category = .name → ∃ value, memory.get? token.text = some value) →
        (∀ token ∈ row, token.category ≠ .operator .divide ∧ token.category ≠ .operator .power) →
        text.trim.length ≤ limits.maxInputLength →
        (ShowsFault limits memory text ↔ ¬ Token.Suffices row)) := by
  have lacks := Token.missing_pos gapped
  rcases line_plain limits memory absent with fault | ⟨value, done, shows⟩
  · have numberless := fun number : ShowsValue limits memory text => number.not_showsFault fault
    refine ⟨lacks, iff_of_true fault numberless, fun _ => fault, fun _ => fault, ?_⟩
    intro names operators short
    refine iff_of_true fault fun enough => ?_
    obtain ⟨value, done⟩ := expression_of_suffices limits memory scanned names operators enough
    obtain ⟨⟨number, rfl⟩, -, -⟩ := expression_gapped limits memory scanned gapped done
    exact numberless ⟨number, line_of_expression limits memory absent short done⟩
  · obtain ⟨⟨number, rfl⟩, enough, spared⟩ := expression_gapped limits memory scanned gapped done
    have numbered : ShowsValue limits memory text := ⟨number, shows⟩
    have faultless := numbered.not_showsFault
    refine ⟨lacks, iff_of_false faultless (not_not_intro numbered), ?_, ?_, ?_⟩
    · intro scarce
      omega
    · exact fun scarce => absurd enough scarce
    · exact fun _ _ _ => iff_of_false faultless (not_not_intro enough)

/-- With nothing else to take, a product that lacks an operand is refused. -/
theorem line_gapped_noticed :
    let row : List Token := [⟨['-'], .operator .subtract⟩, ⟨['('], .opening⟩, ⟨['a'], .name⟩,
      ⟨['*'], .operator .multiply⟩, ⟨[')'], .closing⟩]
    Token.scan "-(a *)".toList = .ok row ∧ Token.Gapped row ∧
      ShowsFault {} ⟨[(['a'], 3)]⟩ "-(a *)".toList ∧ ¬ Token.Suffices row := by
  intro row
  have gapped : Token.Gapped row :=
    ⟨row.take 3, ⟨['*'], .operator .multiply⟩, [⟨[')'], .closing⟩], rfl, .inr ⟨rfl, by decide⟩⟩
  have names : ∀ token ∈ row, token.category = .name →
      ∃ value, (⟨[(['a'], 3)]⟩ : Variables).get? token.text = some value := by
    simp [row, Table.get?]
  have absent : '=' ∉ "-(a *)".toList := by decide
  obtain ⟨-, -, scarce, -, whole⟩ := line_gapped {} ⟨[(['a'], 3)]⟩ absent rfl gapped
  have fault := scarce (by decide)
  exact ⟨rfl, gapped, fault, (whole names (by decide) (by decide)).mp fault⟩

/-- The product lacks its right operand, and takes the left one of the sum in its place. -/
theorem line_gapped_unnoticed :
    let row : List Token := [⟨['1'], .numeral⟩, ⟨['+'], .operator .add⟩, ⟨['2'], .numeral⟩,
      ⟨['*'], .operator .multiply⟩]
    '=' ∉ "1+2*".toList ∧ Token.scan "1+2*".toList = .ok row ∧ Token.Gapped row ∧
      line {} ⟨[]⟩ "1+2*".toList = ("2".toList, ⟨[]⟩) ∧
      ¬ ShowsFault {} ⟨[]⟩ "1+2*".toList := by
  intro row
  have shows : line {} ⟨[]⟩ "1+2*".toList = ("2".toList, ⟨[]⟩) := by rfl
  refine ⟨by decide, rfl, ?_, shows, ?_⟩
  · exact ⟨row.take 3, ⟨['*'], .operator .multiply⟩, [], rfl, .inr ⟨rfl, by decide⟩⟩
  · exact ShowsValue.not_showsFault ⟨2, shows⟩

end Calculator

end Reckoner
