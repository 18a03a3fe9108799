import Reckoner.Proofs.Calculator.Operands
import Reckoner.Proofs.Evaluation
import Reckoner.Proofs.Session.Assignment

set_option autoImplicit false

/-!
What a text comes to. Only assignments find fault with a name that is to be set, and a text comes
to nothing exactly if it is blank, is an assignment, or is an expression of parentheses alone.
-/
namespace Reckoner

/-- All that counts in the text is parentheses, and these are nested. -/
structure Text.Hollow (text : Text) : Prop where
  groups : ∀ c ∈ text.essence, c = '(' ∨ c = ')'
  nested : Nested (· == '(') (· == ')') text.essence

namespace Category

theorem ofChar_eq_opening_iff (c : Char) : ofChar c = .opening ↔ c = '(' := by
  refine ⟨?_, fun same => by rw [same]; rfl⟩
  rcases ofChar_cases c with ⟨-, kind⟩ | ⟨-, kind⟩ | ⟨symbol, -, kind⟩ |
    ⟨rfl, -⟩ | ⟨-, kind⟩ | kind
  all_goals simp [*]

theorem ofChar_eq_closing_iff (c : Char) : ofChar c = .closing ↔ c = ')' := by
  refine ⟨?_, fun same => by rw [same]; rfl⟩
  rcases ofChar_cases c with ⟨-, kind⟩ | ⟨-, kind⟩ | ⟨symbol, -, kind⟩ |
    ⟨-, kind⟩ | ⟨rfl, -⟩ | kind
  all_goals simp [*]

end Category

namespace Token

theorem scan_within (text : Text) : Within Fault.OfValue (scan text) := by
  rcases scan_settled text with ⟨-, tokens, scanned, -⟩ | ⟨-, refused⟩
  · rw [scanned]
    exact within_ok tokens
  · rw [refused]
    exact within_error (.flaw _)

theorem scan_groups (text : Text) (groups : ∀ c ∈ text, c = '(' ∨ c = ')') :
    scan text = .ok (text.map fun c => ⟨[c], Category.ofChar c⟩) := by
  induction text with
  | nil => rfl
  | cons c rest ih =>
      rw [List.forall_mem_cons] at groups
      have kind : (Category.ofChar c).isGroup = true := by
        rcases groups.1 with rfl | rfl
        · rfl
        · rfl
      refine scan_single c (fun noise => ?_) (ih groups.2) fun next _ => ?_
      · rw [noise] at kind
        cases kind
      · rw [Category.joins_eq_false_iff]
        refine ⟨fun signs => ?_, fun same => by simp [kind] at same⟩
        rcases groups.1 with rfl | rfl
        · cases signs.1
        · cases signs.1

/-- Tokens that are neither operands nor operators are parentheses. -/
theorem groups_of_unused {tokens : List Token} {text : Text} (settled : Settled tokens text)
    (unused : ∀ token ∈ tokens, token.remains = false) :
    ∀ c ∈ text, c = '(' ∨ c = ')' := by
  intro c member
  rw [← settled.whole, List.mem_flatMap] at member
  obtain ⟨⟨content, category⟩, inside, letter⟩ := member
  have regular := settled.regular _ inside
  have idle := unused _ inside
  cases category with
  | noise => exact False.elim regular
  | numeral => cases idle
  | name => cases idle
  | operator symbol => cases idle
  | opening =>
      rw [show content = ['('] from regular] at letter
      exact .inl (List.mem_singleton.mp letter)
  | closing =>
      rw [show content = [')'] from regular] at letter
      exact .inr (List.mem_singleton.mp letter)

theorem nested_map_ofChar (text : Text) :
    Nested opens closes (text.map fun c => ⟨[c], Category.ofChar c⟩) ↔
      Nested (· == '(') (· == ')') text := by
  have opening : (opens ∘ fun c => ⟨[c], Category.ofChar c⟩) = (· == '(') := by
    funext c
    rw [Bool.eq_iff_iff, Function.comp_apply, opens, beq_iff_eq, beq_iff_eq]
    exact Category.ofChar_eq_opening_iff c
  have closing : (closes ∘ fun c => ⟨[c], Category.ofChar c⟩) = (· == ')') := by
    funext c
    rw [Bool.eq_iff_iff, Function.comp_apply, closes, beq_iff_eq, beq_iff_eq]
    exact Category.ofChar_eq_closing_iff c
  rw [nested_map, opening, closing]

end Token

theorem PostOrder.ofTokens_within (row : List Token) : Within Fault.OfValue (ofTokens row) := by
  rcases ofTokens_cases row with ⟨-, refused⟩ | ⟨-, sent, ordered, -⟩
  · rw [refused]
    exact within_error (.flaw _)
  · rw [ordered]
    exact within_ok sent

/-- What is in post-order has nothing to work out exactly if the row has nothing. -/
theorem PostOrder.unused_iff {row sent : List Token}
    (kept : sent.Perm (row.filter Token.remains)) :
    (∀ token ∈ sent, token.remains = false) ↔ ∀ token ∈ row, token.remains = false := by
  constructor
  · intro unused token member
    rw [← Bool.not_eq_true]
    intro used
    have inside := kept.symm.subset (List.mem_filter.mpr ⟨member, used⟩)
    rw [unused token inside] at used
    cases used
  · intro unused token member
    exact unused token (List.mem_filter.mp (kept.subset member)).1

namespace Calculator

variable (limits : Limits) (memory : Variables)

theorem expression_within (text : Text) :
    Within Fault.OfValue (expression limits memory text) :=
  ((Token.scan_within text).bind fun tokens _ => PostOrder.ofTokens_within tokens).bind
    fun sent _ => Evaluation.evaluate_within limits memory sent

/-- An expression comes to nothing exactly if it holds nested parentheses and noise alone. -/
theorem expression_eq_none_iff (text : Text) :
    expression limits memory text = .ok none ↔ text.Hollow := by
  constructor
  · intro done
    obtain ⟨sent, ordered, evaluated⟩ := (bind_eq_ok_iff _).mp done
    obtain ⟨row, scanned, settled, nested, kept⟩ := postOrder_eq_ok ordered
    have idle := (Evaluation.evaluate_eq_none_iff limits memory sent).mp evaluated
    have groups := Token.groups_of_unused settled ((PostOrder.unused_iff kept).mp idle)
    have single := Token.scan_groups _ groups
    rw [Token.scan_essence, scanned] at single
    obtain rfl := Except.ok.inj single
    exact ⟨groups, (Token.nested_map_ofChar _).mp nested⟩
  · intro hollow
    have scanned := Token.scan_groups _ hollow.groups
    rw [Token.scan_essence] at scanned
    generalize parts : text.essence.map (fun c => (⟨[c], Category.ofChar c⟩ : Token)) = row
      at scanned
    have nested : Nested Token.opens Token.closes row := by
      rw [← parts]
      exact (Token.nested_map_ofChar _).mpr hollow.nested
    have idle : ∀ token ∈ row, token.remains = false := by
      intro token member
      rw [← parts, List.mem_map] at member
      obtain ⟨c, inside, rfl⟩ := member
      rcases hollow.groups c inside with rfl | rfl
      · rfl
      · rfl
    rcases PostOrder.ofTokens_cases row with ⟨crossed, -⟩ | ⟨-, sent, ordered, kept⟩
    · exact absurd nested crossed
    · simp only [expression, postOrder, scanned, ordered, ok_bind]
      exact (Evaluation.evaluate_eq_none_iff limits memory sent).mpr
        ((PostOrder.unused_iff kept).mpr idle)

theorem expression_trim (text : Text) :
    expression limits memory text.trim = expression limits memory text := by
  simp only [expression, postOrder, Token.scan_trim]

theorem calculate_expression {text : Text} (occupied : text.isBlank = false)
    (short : text.length ≤ limits.maxInputLength) (absent : '=' ∉ text) :
    calculate limits memory text = do return (← expression limits memory text, memory) := by
  have inside : ¬ limits.maxInputLength < (text.length : Int) := by omega
  simp only [calculate, occupied, Bool.false_eq_true, ↓reduceIte, inside,
    Text.splitFirst_of_notMem '=' text absent]

theorem calculate_tooLong {text : Text} (occupied : text.isBlank = false)
    (long : limits.maxInputLength < text.length) :
    calculate limits memory text = .error (.invalidExpression (.tooLong text.length)) := by
  simp only [calculate, occupied, Bool.false_eq_true, ↓reduceIte, long]

theorem calculate_blank {text : Text} (blank : text.isBlank = true) :
    calculate limits memory text = .ok (none, memory) := by
  simp only [calculate, blank, ↓reduceIte]

theorem expression_blank {text : Text} (blank : text.isBlank = true) :
    expression limits memory text = .ok none := by
  have scanned : Token.scan text = .ok [] := by
    rw [← Token.scan_essence, Text.essence_isBlank blank]
    rfl
  simp only [expression, postOrder, scanned]
  rfl

theorem calculate_plain {text : Text} (short : text.length ≤ limits.maxInputLength)
    (absent : '=' ∉ text) :
    calculate limits memory text = do return (← expression limits memory text, memory) := by
  cases occupied : text.isBlank with
  | true =>
      rw [calculate_blank limits memory occupied, expression_blank limits memory occupied]
      rfl
  | false => exact calculate_expression limits memory occupied short absent

/-- Without an equals sign there is no name to find fault with. -/
theorem calculate_within (text : Text) (absent : '=' ∉ text) :
    Within Fault.OfValue (calculate limits memory text) := by
  cases occupied : text.isBlank with
  | true =>
      rw [calculate_blank limits memory occupied]
      exact within_ok _
  | false =>
      by_cases long : limits.maxInputLength < (text.length : Int)
      · rw [calculate_tooLong limits memory occupied long]
        exact within_error (.flaw _)
      · rw [calculate_expression limits memory occupied (by omega) absent]
        exact (expression_within limits memory text).bind fun _ _ => within_ok _

/-- A text comes to nothing if it is blank, if it is an assignment, or if it is an expression of
parentheses alone, and in no other case. -/
theorem calculate_eq_none_iff (text : Text) :
    (∃ after, calculate limits memory text = .ok (none, after)) ↔
      text.isBlank = true ∨ (∃ name value, Assigns limits memory text name value) ∨
        (text.length ≤ limits.maxInputLength ∧ '=' ∉ text ∧ text.Hollow) := by
  constructor
  · intro done
    obtain ⟨after, done⟩ := done
    cases occupied : text.isBlank with
    | true => exact .inl rfl
    | false =>
        refine .inr ?_
        by_cases equals : '=' ∈ text
        · obtain ⟨left, right, rfl, absent⟩ := List.eq_append_cons_of_mem equals
          refine .inl ((assigns_or_refuses limits memory left right absent).resolve_right ?_)
          intro refusal
          obtain ⟨fault, refuses⟩ := refusal
          rw [calculate_of_refuses absent refuses] at done
          cases done
        · by_cases long : limits.maxInputLength < (text.length : Int)
          · rw [calculate_tooLong limits memory occupied long] at done
            cases done
          · rw [calculate_expression limits memory occupied (by omega) equals] at done
            obtain ⟨value, evaluated, same⟩ := (bind_eq_ok_iff _).mp done
            cases same
            have hollow := (expression_eq_none_iff limits memory text).mp evaluated
            exact .inr ⟨by omega, equals, hollow⟩
  · rintro (blank | ⟨name, value, assigns⟩ | ⟨short, absent, hollow⟩)
    · exact ⟨memory, calculate_blank limits memory blank⟩
    · exact ⟨_, calculate_of_assigns assigns⟩
    · cases occupied : text.isBlank with
      | true => exact ⟨memory, calculate_blank limits memory occupied⟩
      | false =>
          refine ⟨memory, ?_⟩
          rw [calculate_expression limits memory occupied short absent,
            (expression_eq_none_iff limits memory text).mpr hollow]
          rfl

end Calculator

end Reckoner
