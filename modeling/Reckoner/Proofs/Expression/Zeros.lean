import Reckoner.Proofs.Expression.Spelling

set_option autoImplicit false

/-!
Zeros written in front of the signs that open a group. With them, every form is read as it is
meant; without them, it is so exactly if no operand stands before such a group.
-/
namespace Reckoner

def Category.opens : Category → Bool
  | .opening => true
  | _ => false

theorem Category.opens_eq_true_iff (category : Category) :
    category.opens = true ↔ category = .opening := by
  cases category <;> simp [opens]

namespace Token

/-- Writes zero in front of each sign right behind an opening parenthesis, where the first token
may itself be behind one. -/
def withZeros (opened : Bool) : List Token → List Token
  | [] => []
  | token :: rest =>
      let behind := token :: withZeros token.category.opens rest
      if opened && token.category.isSign then zero :: behind else behind

/-- Each sign right behind an opening parenthesis stands before all operands. -/
def SignsLead (tokens : List Token) : Prop :=
  ∀ front opening sign back, tokens = front ++ opening :: sign :: back →
    opening.category = .opening → sign.category.isSign = true →
      ∀ token ∈ front, token.category.isOperand = false

/-- The same for tokens that an operand may have gone before, and of which the first may be right
behind an opening parenthesis. -/
def SignsLeadFrom (seen opened : Bool) : List Token → Prop
  | [] => True
  | token :: rest =>
      (opened = true → token.category.isSign = true → seen = false) ∧
        SignsLeadFrom (seen || token.category.isOperand) token.category.opens rest

theorem signsLeadFrom_iff (seen opened : Bool) (tokens : List Token) :
    SignsLeadFrom seen opened tokens ↔
      (opened = true → ∀ token ∈ tokens.head?, token.category.isSign = true → seen = false) ∧
      ∀ front opening sign back, tokens = front ++ opening :: sign :: back →
        opening.category = .opening → sign.category.isSign = true →
          seen = false ∧ ∀ token ∈ front, token.category.isOperand = false := by
  induction tokens generalizing seen opened with
  | nil => simp [SignsLeadFrom]
  | cons token rest ih =>
      rw [SignsLeadFrom, ih]
      constructor
      · intro lead
        obtain ⟨here, next, later⟩ := lead
        refine ⟨fun behind other starts sign => ?_, ?_⟩
        · rw [← Option.some.inj starts] at sign
          exact here behind sign
        intro front opening sign back parts opens isSign
        cases front with
        | nil =>
            obtain ⟨rfl, rfl⟩ := List.cons.inj parts
            have clear := next ((Category.opens_eq_true_iff _).mpr opens) sign rfl isSign
            exact ⟨(Bool.or_eq_false_iff.mp clear).1, by simp⟩
        | cons first front =>
            obtain ⟨rfl, rfl⟩ := List.cons.inj parts
            obtain ⟨clear, inside⟩ := later front opening sign back rfl opens isSign
            obtain ⟨unseen, other⟩ := Bool.or_eq_false_iff.mp clear
            exact ⟨unseen, List.forall_mem_cons.mpr ⟨other, inside⟩⟩
      · intro lead
        obtain ⟨here, later⟩ := lead
        refine ⟨fun behind sign => here behind token rfl sign, ?_, ?_⟩
        · intro opens next starts isSign
          obtain ⟨back, rfl⟩ := List.head?_eq_some_iff.mp starts
          have kind := (Category.opens_eq_true_iff _).mp opens
          have unseen := (later [] token next back rfl kind isSign).1
          rw [unseen, kind]
          rfl
        · intro front opening sign back parts opens isSign
          obtain ⟨unseen, others⟩ :=
            later (token :: front) opening sign back (by rw [parts]; rfl) opens isSign
          rw [List.forall_mem_cons] at others
          exact ⟨by rw [unseen, others.1]; rfl, others.2⟩

theorem signsLead_iff (tokens : List Token) :
    SignsLead tokens ↔ SignsLeadFrom false false tokens := by
  simp [signsLeadFrom_iff, SignsLead]

theorem mem_withZeros (opened : Bool) (tokens : List Token) (token : Token)
    (member : token ∈ withZeros opened tokens) : token = zero ∨ token ∈ tokens := by
  induction tokens generalizing opened with
  | nil => cases member
  | cons first rest ih =>
      have later (inside : token ∈ first :: withZeros first.category.opens rest) :
          token = zero ∨ token ∈ first :: rest := by
        rcases List.mem_cons.mp inside with same | behind
        · exact .inr (by simp [same])
        · exact (ih _ behind).imp_right (List.mem_cons_of_mem first)
      unfold withZeros at member
      split at member
      · rcases List.mem_cons.mp member with same | inside
        · exact .inl same
        · exact later inside
      · exact later member

end Token

namespace Form

def zeroed (opened : Bool) : Form → Form
  | .numeral digits => .numeral digits
  | .name letters => .name letters
  | .group inner => .group (inner.zeroed true)
  | .signed sign run right =>
      if opened then .binary (.numeral ['0']) sign run (right.zeroed false)
      else .signed sign run (right.zeroed false)
  | .binary left symbol run right => .binary (left.zeroed opened) symbol run (right.zeroed false)

theorem withZeros_tokens (form : Form) (level : Int) (binds : form.Binds level) (opened : Bool)
    (rest : List Token) : Token.withZeros opened (form.tokens ++ rest) =
      (form.zeroed opened).tokens ++ Token.withZeros false rest := by
  induction form generalizing level opened rest with
  | numeral digits => simp [tokens, zeroed, Token.withZeros, Category.isSign, Category.opens]
  | name letters => simp [tokens, zeroed, Token.withZeros, Category.isSign, Category.opens]
  | group inner ih =>
      have inside := ih 1 binds true (⟨[')'], .closing⟩ :: rest)
      simp [tokens, zeroed, Token.withZeros, Category.isSign, Category.opens, inside]
  | signed sign run right ih =>
      have behind := ih 2 binds.2.2 false rest
      have isSign := binds.1
      cases opened with
      | true =>
          simp [tokens, zeroed, Token.withZeros, Category.isSign, Category.opens, isSign, behind,
            Token.zero]
      | false => simp [tokens, zeroed, Token.withZeros, Category.opens, behind]
  | binary left symbol run right first second =>
      have behind := second _ binds.2.2 false rest
      have whole := first _ binds.2.1 opened (⟨run, .operator symbol⟩ :: (right.tokens ++ rest))
      simp [tokens, zeroed, whole, Token.withZeros, Category.opens, behind]

theorem binds_zeroed (form : Form) (level : Int) (binds : form.Binds level) (opened : Bool) :
    (form.zeroed opened).Binds level := by
  induction form generalizing level opened with
  | numeral digits => trivial
  | name letters => trivial
  | group inner ih => exact ih 1 binds true
  | signed sign run right ih =>
      obtain ⟨isSign, low, strong⟩ := binds
      have one := Operator.precedence_of_isSign isSign
      have behind := ih 2 strong false
      cases opened with
      | true => exact ⟨by rw [one]; exact low, trivial, by rw [one]; exact behind⟩
      | false => exact ⟨isSign, low, behind⟩
  | binary left symbol run right first second =>
      exact ⟨binds.1, first _ binds.2.1 opened, second _ binds.2.2 false⟩

theorem clear_zeroed (form : Form) (level : Int) (binds : form.Binds level) (opened waits : Bool)
    (safe : form.StartsSigned → opened = true ∨ waits = false) :
    (form.zeroed opened).Clear waits := by
  induction form generalizing level opened waits with
  | numeral digits => trivial
  | name letters => trivial
  | group inner ih => exact ih 1 binds true waits fun _ => .inl rfl
  | signed sign run right ih =>
      have behind (waits : Bool) : (right.zeroed false).Clear waits :=
        ih 2 binds.2.2 false waits fun starts =>
          absurd starts (right.not_startsSigned 2 binds.2.2 (by decide))
      cases opened with
      | true => exact ⟨trivial, behind true⟩
      | false => exact ⟨by simpa using safe trivial, behind false⟩
  | binary left symbol run right first second =>
      have positive := symbol.precedence_pos
      refine ⟨first _ binds.2.1 opened waits safe, second _ binds.2.2 false true fun starts => ?_⟩
      exact absurd starts (right.not_startsSigned _ binds.2.2 (by omega))

theorem compute_zeroed (limits : Limits) (memory : Variables) (form : Form) (level : Int)
    (binds : form.Binds level) (opened : Bool) :
    (form.zeroed opened).tree.compute limits memory = form.tree.compute limits memory := by
  induction form generalizing level opened with
  | numeral digits => rfl
  | name letters => rfl
  | group inner ih => exact ih 1 binds true
  | signed sign run right ih =>
      have behind := ih 2 binds.2.2 false
      cases opened with
      | true =>
          rw [show (signed sign run right).tree = .unary sign right.tree from rfl,
            Tree.compute_unary binds.1]
          simp only [zeroed, ↓reduceIte, tree, Tree.compute, behind]
      | false => simp only [zeroed, Bool.false_eq_true, ↓reduceIte, tree, Tree.compute, behind]
  | binary left symbol run right first second =>
      simp only [zeroed, tree, Tree.compute, first _ binds.2.1 opened, second _ binds.2.2 false]

/-- A form is read as it is meant exactly if its signs lead. -/
theorem signsLeadFrom_tokens (form : Form) (level : Int) (binds : form.Binds level)
    (seen opened : Bool) (safe : form.StartsSigned → opened = true ∨ seen = false)
    (rest : List Token) : Token.SignsLeadFrom seen opened (form.tokens ++ rest) ↔
      form.Clear seen ∧ Token.SignsLeadFrom true false rest := by
  induction form generalizing level seen opened rest with
  | numeral digits =>
      simp [tokens, Token.SignsLeadFrom, Clear, Category.isSign, Category.isOperand, Category.opens]
  | name letters =>
      simp [tokens, Token.SignsLeadFrom, Clear, Category.isSign, Category.isOperand, Category.opens]
  | group inner ih =>
      have inside := ih 1 binds seen true (fun _ => .inl rfl) (⟨[')'], .closing⟩ :: rest)
      simp [tokens, Token.SignsLeadFrom, Clear, Category.isSign, Category.isOperand,
        Category.opens, inside]
  | signed sign run right ih =>
      have behind := ih 2 binds.2.2 seen false
        (fun starts => absurd starts (right.not_startsSigned 2 binds.2.2 (by decide))) rest
      have isSign := binds.1
      have possible := safe trivial
      cases seen with
      | false =>
          simp [tokens, Token.SignsLeadFrom, Clear, Category.isOperand, Category.opens, behind]
      | true =>
          -- Behind an operand, a sign without a left operand can only open a group.
          simp only [Bool.true_eq_false, or_false] at possible
          simp [tokens, Token.SignsLeadFrom, Clear, Category.isSign, isSign, possible]
  | binary left symbol run right first second =>
      have positive := symbol.precedence_pos
      have behind := second _ binds.2.2 true false
        (fun starts => absurd starts (right.not_startsSigned _ binds.2.2 (by omega))) rest
      have whole := first _ binds.2.1 seen opened safe
        (⟨run, .operator symbol⟩ :: (right.tokens ++ rest))
      rw [tokens, List.append_assoc, List.cons_append, whole, Clear, and_assoc, ← behind]
      simp [Token.SignsLeadFrom, Category.opens]

theorem clear_iff_signsLead (form : Form) (binds : form.Binds 1) :
    form.Clear false ↔ Token.SignsLead form.tokens := by
  have whole := form.signsLeadFrom_tokens 1 binds false false (fun _ => .inr rfl) []
  rw [List.append_nil] at whole
  rw [Token.signsLead_iff, whole]
  simp [Token.SignsLeadFrom]

end Form

namespace Calculator

/-- A line on which a form is written out, and the same line with zero in front of each sign that
opens a group. The second shows what the form is meant to be, and the first what it is read as, so
they agree exactly if both expressions come to the same. The two expressions are one exactly if
each sign that opens a group stands before all operands. -/
theorem line_withZeros (limits : Limits) (memory : Variables) (form : Form) (binds : form.Binds 1)
    (regular : ∀ token ∈ form.tokens, token.Regular) (text filled : Text)
    (spells : Token.Spells form.tokens text)
    (filledSpells : Token.Spells (Token.withZeros false form.tokens) filled)
    (short : text.trim.length ≤ limits.maxInputLength)
    (filledShort : filled.trim.length ≤ limits.maxInputLength) :
    (line limits memory text = line limits memory filled ↔
        shown (form.reading.outcome limits memory) = shown (form.tree.outcome limits memory)) ∧
      (Token.SignsLead form.tokens → line limits memory text = line limits memory filled) ∧
      (Token.SignsLead form.tokens ↔ form.reading = form.tree) ∧
      line limits memory text = (shown (form.reading.outcome limits memory), memory) ∧
      line limits memory filled = (shown (form.tree.outcome limits memory), memory) := by
  have read := line_form limits memory form binds regular text spells short
  have tokens : Token.withZeros false form.tokens = (form.zeroed false).tokens := by
    simpa [Token.withZeros] using form.withZeros_tokens 1 binds false []
  have filledRegular : ∀ token ∈ (form.zeroed false).tokens, token.Regular := by
    intro token member
    rw [← tokens] at member
    rcases Token.mem_withZeros false form.tokens token member with rfl | member
    · decide
    · exact regular token member
  rw [tokens] at filledSpells
  have meant := line_form limits memory (form.zeroed false) (form.binds_zeroed 1 binds false)
    filledRegular filled filledSpells filledShort
  have clear := form.clear_zeroed 1 binds false false fun _ => .inr rfl
  rw [(Form.reading_eq_tree_iff _).mpr clear, Tree.outcome,
    form.compute_zeroed limits memory 1 binds false] at meant
  have lead : Token.SignsLead form.tokens ↔ form.reading = form.tree := by
    rw [← form.clear_iff_signsLead binds, form.reading_eq_tree_iff]
  have agree : line limits memory text = line limits memory filled ↔
      shown (form.reading.outcome limits memory) = shown (form.tree.outcome limits memory) := by
    rw [read, meant, Prod.mk.injEq, and_iff_left rfl]
    rfl
  refine ⟨agree, ?_, lead, read, meant⟩
  intro leads
  rw [agree, lead.mp leads]

/-- A group that nothing stands before is the same with zero and without. -/
theorem line_withZeros_leading :
    Token.Spells [⟨['('], .opening⟩, ⟨['-'], .operator .subtract⟩, ⟨['7'], .numeral⟩,
        ⟨[')'], .closing⟩, ⟨['/'], .operator .divide⟩, ⟨['2'], .numeral⟩] "(-7) / 2".toList ∧
      line {} ⟨[]⟩ "(-7) / 2".toList = ("-3".toList, ⟨[]⟩) ∧
      line {} ⟨[]⟩ "(0-7) / 2".toList = ("-3".toList, ⟨[]⟩) := by
  let form : Form := .binary (.group (.signed .subtract ['-'] (.numeral ['7']))) .divide ['/']
    (.numeral ['2'])
  have none : Text.isBlank [] = true := rfl
  have one : Text.isBlank [' '] = true := rfl
  have spells : Token.Spells form.tokens "(-7) / 2".toList :=
    .next none (.next none (.next none (.next none (.next one (.next one (.done none))))))
  have filled : Token.Spells (Token.withZeros false form.tokens) "(0-7) / 2".toList :=
    .next none (.next none (.next none (.next none (.next none (.next one (.next one
      (.done none)))))))
  have binds : form.Binds 1 := ⟨by decide, ⟨rfl, by decide, trivial⟩, trivial⟩
  obtain ⟨-, -, -, read, meant⟩ := line_withZeros {} ⟨[]⟩ form binds (by decide) _ _ spells filled
    (by decide) (by decide)
  exact ⟨spells, read, meant⟩

/-- Behind a minus sign, a group with a sign takes the operand before it, and is read otherwise
than with zero in it. -/
theorem line_withZeros_differs :
    let form : Form := .binary (.numeral ['2']) .subtract ['-']
      (.group (.signed .subtract ['-'] (.numeral ['3'])))
    form.Binds 1 ∧ (∀ token ∈ form.tokens, token.Regular) ∧
      Token.Spells form.tokens "2-(-3)".toList ∧
      Token.Spells (Token.withZeros false form.tokens) "2-(0-3)".toList ∧
      line {} ⟨[]⟩ "2-(-3)".toList = ("1".toList, ⟨[]⟩) ∧
      line {} ⟨[]⟩ "2-(0-3)".toList = ("5".toList, ⟨[]⟩) := by
  intro form
  have none : Text.isBlank [] = true := rfl
  have spells : Token.Spells form.tokens "2-(-3)".toList :=
    .next none (.next none (.next none (.next none (.next none (.next none (.done none))))))
  have filled : Token.Spells (Token.withZeros false form.tokens) "2-(0-3)".toList :=
    .next none (.next none (.next none (.next none (.next none (.next none (.next none
      (.done none)))))))
  refine ⟨⟨by decide, trivial, rfl, by decide, trivial⟩, by decide, spells, filled, ?_, ?_⟩
  · rfl
  · rfl

end Calculator

end Reckoner
