import Reckoner.Proofs.Token.Lexing

set_option autoImplicit false

/-!
What the scan of a text yields. The tokens of a text are its one division into numerals, names,
signs, other operators and parentheses in which no two neighbours could be one token. There is
none exactly if a mark other than a sign is repeated.
-/
namespace Reckoner

/-- A mark that does not grow stands twice in a row. -/
def Text.Doubled (text : Text) : Prop :=
  ∃ c, (c = '*' ∨ c = '/' ∨ c = '^') ∧ [c, c] <:+: text

namespace Token

/-- Two neighbours that are not both numerals, both names or both signs. -/
def Apart (token next : Token) : Prop :=
  ¬ (token.category = .numeral ∧ next.category = .numeral) ∧
    ¬ (token.category = .name ∧ next.category = .name) ∧
    ¬ (token.category.isSign = true ∧ next.category.isSign = true)

/-- Two neighbours that are the same operator, and not a sign. -/
def Repeats (token next : Token) : Prop :=
  token.category = next.category ∧ token.category.isOperator = true ∧
    token.category.isSign = false

/-- The tokens are a division of the text into regular tokens that stand apart. -/
structure Divides (tokens : List Token) (text : Text) : Prop where
  regular : ∀ token ∈ tokens, token.Regular
  apart : tokens.IsChain Apart
  whole : tokens.flatMap Token.text = text

/-- Regular tokens stand apart and do not repeat exactly if they do not join. -/
theorem joins_eq_false_iff_apart (token next : Token) (regular : token.Regular) :
    token.category.joins next.category = false ↔ token.Apart next ∧ ¬ token.Repeats next := by
  obtain ⟨text, category⟩ := token
  obtain ⟨other, incoming⟩ := next
  have counts : category ≠ .noise := regular.ne_noise
  rw [Category.joins_eq_false_iff]
  simp only [Apart, Repeats]
  cases category <;> cases incoming <;>
    simp_all [Category.isSign, Category.isGroup, Category.isOperator]
  next symbol incoming => cases symbol <;> cases incoming <;> simp [Operator.isSign]

/-- Regular tokens that a scan keeps apart, with the text that they make. -/
structure Settled (tokens : List Token) (text : Text) : Prop where
  regular : ∀ token ∈ tokens, token.Regular
  apart : tokens.IsChain fun token next => token.category.joins next.category = false
  whole : tokens.flatMap Token.text = text

/-- A token takes in a character on its left: it stays regular, and it joins no more than before. -/
def Grows (c : Char) (token : Token) : Prop :=
  ∃ grown, (Category.ofChar c).absorb token.category = .ok grown ∧
    Regular ⟨c :: token.text, grown⟩ ∧
    ∀ other, token.category.joins other = false → grown.joins other = false

theorem grows_sign {c : Char} {token : Token} (regular : token.Regular)
    (sign : (Category.ofChar c).isSign = true) (next : token.category.isSign = true) :
    token.Grows c := by
  obtain ⟨kind, run⟩ := sign_of_regular regular next
  have first := (isSign_ofChar_iff c).mp sign
  refine ⟨.operator (signOf (c :: token.text)), ?_, regular_signOf (by simp) ?_, ?_⟩
  · rw [kind]
    exact absorb_signOf c first token.text
  · intro d member
    rcases List.mem_cons.mp member with rfl | member
    · exact first
    · exact run d member
  · intro other apart
    rw [Category.joins_eq_false_iff] at apart ⊢
    have unsigned : ¬ other.isSign = true := fun sign => apart.1 ⟨next, sign⟩
    refine ⟨fun both => unsigned both.2, ?_⟩
    intro same
    rw [← same.1] at unsigned
    exact unsigned (signOf_isSign _)

/-- A regular token grows by each character that joins it, unless a mark would be doubled. -/
theorem grows_of_joins {c : Char} {token : Token} (regular : token.Regular)
    (joined : (Category.ofChar c).joins token.category = true)
    (fresh : ¬ ((c = '*' ∨ c = '/' ∨ c = '^') ∧ token.text.head? = some c)) :
    token.Grows c := by
  rcases (Category.joins_eq_true_iff _ _).mp joined with ⟨sign, next⟩ | ⟨same, single⟩
  · exact grows_sign regular sign next
  · obtain ⟨text, category⟩ := token
    simp only at same
    subst same
    rcases Category.ofChar_cases c with ⟨digit, kind⟩ | ⟨letter, kind⟩ | ⟨symbol, rfl, kind⟩ |
      ⟨rfl, kind⟩ | ⟨rfl, kind⟩ | kind
    · rw [kind] at regular
      simp only [Grows, kind]
      exact ⟨.numeral, rfl, ⟨by simp, by simpa [digit] using regular.2⟩, fun _ apart => apart⟩
    · rw [kind] at regular
      simp only [Grows, kind]
      exact ⟨.name, rfl, ⟨by simp, by simpa [letter] using regular.2⟩, fun _ apart => apart⟩
    · cases sign : symbol.isSign with
      | true =>
          have both : (Category.ofChar symbol.mark).isSign = true := by
            simp [Category.isSign, sign]
          exact grows_sign regular both both
      | false =>
          have alone : text = [symbol.mark] := text_of_regular regular kind sign
          exact absurd ⟨(not_isSign_of_mark symbol).mp sign, by simp [alone]⟩ fresh
    · cases single
    · cases single
    · rw [kind] at regular
      exact False.elim regular

section Front

variable {c : Char} {text : Text} {tokens : List Token}

/-- A mark before the same mark is refused. -/
theorem prepend_clash (settled : Settled tokens text) (mark : c = '*' ∨ c = '/' ∨ c = '^')
    (clash : text.head? = some c) :
    prepend c tokens = .error (.invalidExpression .repeatedOperator) := by
  obtain ⟨symbol, other, rfl⟩ : ∃ symbol : Operator, symbol.isSign = false ∧ symbol.mark = c := by
    rcases mark with rfl | rfl | rfl
    · exact ⟨.multiply, rfl, rfl⟩
    · exact ⟨.divide, rfl, rfl⟩
    · exact ⟨.power, rfl, rfl⟩
  cases tokens with
  | nil => simp [← settled.whole] at clash
  | cons next rest =>
      have regular := settled.regular next (by simp)
      have starts : next.text.head? = some symbol.mark := by
        rw [← settled.whole, List.flatMap_cons, List.head?_append_of_ne_nil _ regular.nonempty]
          at clash
        exact clash
      have kind := category_of_mark regular other (List.mem_of_mem_head? starts)
      apply prepend_refused
      · simp
      · simp [kind, Category.joins]
      · simp only [Category.ofChar_mark, kind]
        cases symbol <;> first | rfl | cases other

/-- Any other character that counts leaves the tokens settled. -/
theorem prepend_settled (settled : Settled tokens text) (counts : Category.ofChar c ≠ .noise)
    (clear : ¬ ((c = '*' ∨ c = '/' ∨ c = '^') ∧ text.head? = some c)) :
    ∃ longer, prepend c tokens = .ok longer ∧ Settled longer (c :: text) := by
  cases tokens with
  | nil =>
      have vanishes : text = [] := settled.whole.symm
      subst text
      refine ⟨_, prepend_nil counts, ?_, List.isChain_singleton _, rfl⟩
      intro token member
      rw [List.mem_singleton.mp member]
      exact regular_single counts
  | cons next rest =>
      have regular := settled.regular next (by simp)
      have others : ∀ token ∈ rest, token.Regular :=
        fun token member => settled.regular token (by simp [member])
      cases joined : (Category.ofChar c).joins next.category with
      | false =>
          refine ⟨_, prepend_apart counts joined, ?_, ?_, ?_⟩
          · intro token member
            rcases List.mem_cons.mp member with rfl | member
            · exact regular_single counts
            · exact settled.regular token member
          · exact List.isChain_cons_cons.mpr ⟨joined, settled.apart⟩
          · rw [← settled.whole]
            rfl
      | true =>
          have fresh : ¬ ((c = '*' ∨ c = '/' ∨ c = '^') ∧ next.text.head? = some c) := by
            intro clash
            obtain ⟨mark, starts⟩ := clash
            refine clear ⟨mark, ?_⟩
            rw [← settled.whole, List.flatMap_cons, List.head?_append_of_ne_nil _ regular.nonempty]
            exact starts
          obtain ⟨grown, absorbed, grownRegular, same⟩ := grows_of_joins regular joined fresh
          refine ⟨_, prepend_joined counts joined absorbed, ?_, ?_, ?_⟩
          · intro token member
            rcases List.mem_cons.mp member with rfl | member
            · exact grownRegular
            · exact others token member
          · exact settled.apart.imp_head fun apart => same _ apart
          · rw [← settled.whole]
            rfl

end Front

end Token

namespace Text

theorem doubled_cons_iff (c : Char) (text : Text) : Doubled (c :: text) ↔
    ((c = '*' ∨ c = '/' ∨ c = '^') ∧ text.head? = some c) ∨ Doubled text := by
  constructor
  · intro doubled
    obtain ⟨mark, kind, inside⟩ := doubled
    rcases List.infix_cons_iff.mp inside with start | later
    · rw [List.cons_prefix_cons] at start
      obtain ⟨rfl, rest, same⟩ := start
      exact .inl ⟨kind, by simp [← same]⟩
    · exact .inr ⟨mark, kind, later⟩
  · intro either
    rcases either with ⟨kind, starts⟩ | ⟨mark, kind, inside⟩
    · obtain ⟨rest, rfl⟩ := List.head?_eq_some_iff.mp starts
      exact ⟨c, kind, [], rest, rfl⟩
    · exact ⟨mark, kind, List.infix_cons_iff.mpr (.inr inside)⟩

end Text

namespace Token

/-- A text is scanned into settled tokens unless a mark is doubled. -/
theorem scan_settled (text : Text) :
    (¬ text.essence.Doubled ∧ ∃ tokens, scan text = .ok tokens ∧ Settled tokens text.essence) ∨
      (text.essence.Doubled ∧ scan text = .error (.invalidExpression .repeatedOperator)) := by
  rw [← scan_essence]
  have counts : ∀ c ∈ text.essence, Category.ofChar c ≠ .noise := Text.essence_counts
  -- Without noise, each character is refused or leaves the tokens behind it settled.
  generalize text.essence = kept at counts ⊢
  induction kept with
  | nil =>
      refine .inl ⟨?_, [], rfl, ?_, List.isChain_nil, rfl⟩
      · intro doubled
        obtain ⟨mark, -, inside⟩ := doubled
        simpa using inside.length_le
      · intro token member
        cases member
  | cons c rest ih =>
      rw [Text.doubled_cons_iff]
      rcases ih (fun d member => counts d (by simp [member])) with
        ⟨clear, tokens, scanned, settled⟩ | ⟨doubled, refused⟩
      · rw [scan_cons c scanned]
        by_cases clash : (c = '*' ∨ c = '/' ∨ c = '^') ∧ rest.head? = some c
        · exact .inr ⟨.inl clash, prepend_clash settled clash.1 clash.2⟩
        · exact .inl ⟨not_or.mpr ⟨clash, clear⟩, prepend_settled settled (counts c (by simp)) clash⟩
      · refine .inr ⟨.inr doubled, ?_⟩
        simp only [scan, refused]
        rfl

theorem settled_of_scan {text : Text} {tokens : List Token} (scanned : scan text = .ok tokens) :
    Settled tokens text.essence := by
  rcases scan_settled text with ⟨-, row, same, settled⟩ | ⟨-, refused⟩
  · obtain rfl := Except.ok.inj (same.symm.trans scanned)
    exact settled
  · rw [refused] at scanned
    cases scanned

theorem Settled.scan_eq {tokens : List Token} {text : Text} (settled : Settled tokens text) :
    scan text = .ok tokens := by
  rw [← settled.whole]
  exact scan_flatMap tokens settled.regular settled.apart

/-- A division is settled exactly if none of its neighbours repeat. -/
theorem settled_iff (tokens : List Token) (text : Text) : Settled tokens text ↔
    Divides tokens text ∧ tokens.IsChain fun token next => ¬ token.Repeats next := by
  constructor
  · intro settled
    have apart : ∀ token next, token ∈ tokens → next ∈ tokens →
        token.category.joins next.category = false → token.Apart next ∧ ¬ token.Repeats next :=
      fun token next member _ =>
        (joins_eq_false_iff_apart token next (settled.regular token member)).mp
    exact ⟨⟨settled.regular,
        settled.apart.imp_of_mem_imp fun token next first second joined =>
          (apart token next first second joined).1, settled.whole⟩,
      settled.apart.imp_of_mem_imp fun token next first second joined =>
        (apart token next first second joined).2⟩
  · intro both
    obtain ⟨divides, single⟩ := both
    refine ⟨divides.regular, ?_, divides.whole⟩
    rw [List.isChain_iff_forall_rel_of_append_cons_cons] at single ⊢
    intro token next front back parts
    rw [joins_eq_false_iff_apart token next (divides.regular token (by simp [parts]))]
    exact ⟨List.isChain_iff_forall_rel_of_append_cons_cons.mp divides.apart parts, single parts⟩

/-- Where no mark is doubled, no neighbours repeat. -/
theorem Divides.settled {tokens : List Token} {text : Text} (divides : Divides tokens text)
    (clear : ¬ text.Doubled) : Settled tokens text := by
  refine (settled_iff tokens text).mpr ⟨divides, ?_⟩
  rw [List.isChain_iff_forall_rel_of_append_cons_cons]
  intro token next front back parts repeats
  obtain ⟨same, operator, unsigned⟩ := repeats
  subst parts
  obtain ⟨symbol, kind⟩ := (Category.isOperator_eq_true_iff _).mp operator
  have other : symbol.isSign = false := by simpa [kind, Category.isSign] using unsigned
  have first := text_of_regular (divides.regular token (by simp)) kind other
  have second := text_of_regular (divides.regular next (by simp)) (same ▸ kind) other
  refine clear ⟨symbol.mark, (not_isSign_of_mark symbol).mp other,
    front.flatMap Token.text, back.flatMap Token.text, ?_⟩
  rw [← divides.whole]
  simp [first, second]

/-- The scan of a text. Each text without a doubled mark has exactly one division, which is what
the scan yields; the scan refuses every other text, and reads back the text of every division
without neighbours that repeat. -/
theorem scan_exact (text : Text) :
    ((∃ flaw, scan text = .error (.invalidExpression flaw)) ↔ text.essence.Doubled) ∧
    (¬ text.essence.Doubled → ∃ tokens, scan text = .ok tokens ∧
      Divides tokens text.essence ∧ ∀ other, Divides other text.essence → other = tokens) ∧
    (∀ tokens : List Token, (∀ token ∈ tokens, token.Regular) → tokens.IsChain Apart →
      (tokens.IsChain fun token next => ¬ token.Repeats next) →
      scan (tokens.flatMap Token.text) = .ok tokens) := by
  refine ⟨⟨?_, ?_⟩, ?_, ?_⟩
  · intro refusal
    obtain ⟨flaw, refused⟩ := refusal
    rcases scan_settled text with ⟨-, tokens, scanned, -⟩ | ⟨doubled, -⟩
    · rw [scanned] at refused
      cases refused
    · exact doubled
  · intro doubled
    rcases scan_settled text with ⟨clear, -⟩ | ⟨-, refused⟩
    · exact absurd doubled clear
    · exact ⟨.repeatedOperator, refused⟩
  · intro clear
    rcases scan_settled text with ⟨-, tokens, scanned, settled⟩ | ⟨doubled, -⟩
    · refine ⟨tokens, scanned, ((settled_iff _ _).mp settled).1, ?_⟩
      intro other divides
      have again := (divides.settled clear).scan_eq
      rw [scan_essence, scanned] at again
      exact (Except.ok.inj again).symm
    · exact absurd doubled clear
  · intro tokens regular apart single
    exact ((settled_iff tokens _).mpr ⟨⟨regular, apart, rfl⟩, single⟩).scan_eq

end Token

end Reckoner
