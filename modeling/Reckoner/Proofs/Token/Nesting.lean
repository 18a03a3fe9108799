import Reckoner.Proofs.Calculator.Result

set_option autoImplicit false

/-!
The parentheses of a text and those of its tokens. Each parenthesis is a token of its own, and no
other token has one in it, so that a text is put into post-order exactly if its parentheses are
nested as they are written.
-/
namespace Reckoner

section Idle

variable {α : Type} {opens closes keeps : α → Bool}
  (idle : ∀ item, keeps item = false → opens item = false ∧ closes item = false)

include idle

theorem lasts_filter (depth : Nat) (row : List α) :
    Lasts opens closes depth (row.filter keeps) ↔ Lasts opens closes depth row := by
  induction row generalizing depth with
  | nil => exact Iff.rfl
  | cons item rest ih =>
      cases kept : keeps item with
      | false =>
          have still : depth + [item].countP closes = depth + [item].countP opens := by
            simp [idle item kept]
          rw [List.filter_cons_of_neg (by simp [kept]), lasts_cons item rest still, ih]
      | true =>
          rw [List.filter_cons_of_pos kept]
          by_cases enough : [item].countP closes ≤ depth + [item].countP opens
          · obtain ⟨left, next⟩ := Nat.exists_eq_add_of_le' enough
            rw [lasts_cons item _ next.symm, lasts_cons item _ next.symm, ih]
          · have closed : closes item = true := by
              by_contra other
              simp [other] at enough
            have unopened : opens item = false := by
              by_contra other
              simp [closed, other] at enough
            have shut : depth = 0 := by simpa [closed, unopened] using enough
            subst shut
            exact iff_of_false (not_lasts_of_closes _ closed unopened)
              (not_lasts_of_closes _ closed unopened)

theorem nested_filter (row : List α) :
    Nested opens closes (row.filter keeps) ↔ Nested opens closes row := by
  have count (select : α → Bool) (other : ∀ item, keeps item = false → select item = false) :
      (row.filter keeps).countP select = row.countP select := by
    rw [List.countP_filter]
    refine List.countP_congr fun item _ => ?_
    cases kept : keeps item with
    | true => simp
    | false => simp [other item kept]
  rw [Nested, Nested, lasts_filter idle, count closes fun item kept => (idle item kept).2,
    count opens fun item kept => (idle item kept).1]

end Idle

namespace Token

def single (c : Char) : Token := ⟨[c], Category.ofChar c⟩

/-- The parentheses among the characters of a regular token are the token, if it is one. -/
theorem Regular.filter_single {token : Token} (regular : token.Regular) :
    (token.text.map single).filter (fun part => part.category.isGroup) =
      [token].filter fun part => part.category.isGroup := by
  obtain ⟨text, category⟩ := token
  cases group : category.isGroup with
  | true =>
      cases category with
      | opening =>
          rw [show text = ['('] from regular]
          rfl
      | closing =>
          rw [show text = [')'] from regular]
          rfl
      | _ => cases group
  | false =>
      have others : ∀ c ∈ text, (Category.ofChar c).isGroup = false := by
        intro c member
        rcases regular.ofChar_mem member with same | signs
        · rw [same, group]
        · cases kind : Category.ofChar c <;> simp_all [Category.isSign, Category.isGroup]
      simpa [List.filter_map, group, List.filter_eq_nil_iff, single] using others

theorem filter_single_flatMap {tokens : List Token} (regular : ∀ token ∈ tokens, token.Regular) :
    ((tokens.flatMap Token.text).map single).filter (fun part => part.category.isGroup) =
      tokens.filter fun part => part.category.isGroup := by
  induction tokens with
  | nil => rfl
  | cons token rest ih =>
      rw [List.forall_mem_cons] at regular
      rw [List.flatMap_cons, List.map_append, List.filter_append, regular.1.filter_single,
        ih regular.2, ← List.filter_append, List.singleton_append]

theorem idle_of_not_isGroup (token : Token) (other : token.category.isGroup = false) :
    token.opens = false ∧ token.closes = false := by
  cases kind : token.category <;> simp_all [opens, closes, Category.isGroup]

/-- The tokens of a text are nested exactly if its characters are. -/
theorem nested_iff_of_scan {text : Text} {tokens : List Token} (scanned : scan text = .ok tokens) :
    Nested opens closes tokens ↔ Nested (· == '(') (· == ')') text := by
  have settled := settled_of_scan scanned
  have noise : ∀ c, (Category.ofChar c != .noise) = false →
      (c == '(') = false ∧ (c == ')') = false := by
    intro c kind
    constructor
    · refine beq_false_of_ne ?_
      rintro rfl
      cases kind
    · refine beq_false_of_ne ?_
      rintro rfl
      cases kind
  rw [← nested_filter noise text]
  change _ ↔ Nested _ _ text.essence
  rw [← nested_map_ofChar, ← nested_filter idle_of_not_isGroup tokens,
    ← nested_filter idle_of_not_isGroup (text.essence.map _), ← settled.whole]
  exact iff_of_eq (congrArg _ (filter_single_flatMap settled.regular).symm)

end Token

end Reckoner
