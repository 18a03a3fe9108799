import Mathlib.Data.List.Chain
import Reckoner.Proofs.Text.Trim
import Reckoner.Proofs.Token.Regular

set_option autoImplicit false

/-!
The scan of a text, character by character from its end. Noise leaves no trace, and a row of
regular tokens of which none joins the next is read back from its text.
-/
namespace Reckoner

def Text.essence (text : Text) : Text :=
  text.filter fun c => Category.ofChar c != .noise

theorem Text.mem_isBlank {text : Text} (blank : text.isBlank = true) {c : Char}
    (member : c ∈ text) : blankChar c = true :=
  List.all_eq_true.mp blank c member

theorem Text.essence_append (front back : Text) :
    Text.essence (front ++ back) = front.essence ++ back.essence :=
  List.filter_append ..

theorem Text.essence_counts {text : Text} : ∀ c ∈ text.essence, Category.ofChar c ≠ .noise := by
  intro c member
  simpa [Text.essence] using (List.mem_filter.mp member).2

theorem Text.essence_eq_self {text : Text} (counts : ∀ c ∈ text, Category.ofChar c ≠ .noise) :
    text.essence = text :=
  List.filter_eq_self.mpr fun c member => by simpa using counts c member

theorem Text.essence_isBlank {text : Text} (blank : text.isBlank = true) : text.essence = [] := by
  apply List.filter_eq_nil_iff.mpr
  intro c member
  simp [Category.ofChar_blank (Text.mem_isBlank blank member)]

theorem Text.essence_trim (text : Text) : text.trim.essence = text.essence :=
  Text.filter_trim _ (fun c blank => by simp [Category.ofChar_blank blank]) text

namespace Token

section Prepend

variable {c : Char} {next : Token} {rest : List Token}

theorem prepend_noise (noise : Category.ofChar c = .noise) (tokens : List Token) :
    prepend c tokens = .ok tokens := by
  simp only [prepend, noise]

theorem prepend_nil (counts : Category.ofChar c ≠ .noise) :
    prepend c [] = .ok [⟨[c], Category.ofChar c⟩] := by
  unfold prepend
  split <;> simp_all

theorem prepend_apart (counts : Category.ofChar c ≠ .noise)
    (apart : (Category.ofChar c).joins next.category = false) :
    prepend c (next :: rest) = .ok (⟨[c], Category.ofChar c⟩ :: next :: rest) := by
  unfold prepend
  split <;> simp_all

theorem prepend_joined {grown : Category} (counts : Category.ofChar c ≠ .noise)
    (joined : (Category.ofChar c).joins next.category = true)
    (absorbed : (Category.ofChar c).absorb next.category = .ok grown) :
    prepend c (next :: rest) = .ok (⟨c :: next.text, grown⟩ :: rest) := by
  unfold prepend
  split <;> simp_all

theorem prepend_refused {fault : Fault} (counts : Category.ofChar c ≠ .noise)
    (joined : (Category.ofChar c).joins next.category = true)
    (refused : (Category.ofChar c).absorb next.category = .error fault) :
    prepend c (next :: rest) = .error fault := by
  unfold prepend
  split <;> simp_all

end Prepend

theorem scan_cons {behind : Text} {tokens : List Token} (c : Char)
    (scanned : scan behind = .ok tokens) : scan (c :: behind) = prepend c tokens := by
  simp only [scan, scanned]
  rfl

/-- Noise leaves no trace in the tokens. -/
theorem scan_essence (text : Text) : scan text.essence = scan text := by
  induction text with
  | nil => rfl
  | cons c rest ih =>
      by_cases noise : Category.ofChar c = .noise
      · have dropped : Text.essence (c :: rest) = Text.essence rest := by
          simp [Text.essence, noise]
        rw [dropped, ih]
        cases scanned : scan rest with
        | error fault => simp only [scan, scanned]; rfl
        | ok tokens => rw [scan_cons c scanned, prepend_noise noise]
      · have kept : Text.essence (c :: rest) = c :: Text.essence rest := by
          simp [Text.essence, noise]
        rw [kept, scan, scan, ih]

theorem scan_trim (text : Text) : scan text.trim = scan text := by
  rw [← scan_essence text.trim, Text.essence_trim, scan_essence]

section Growth

variable {behind : Text} {tokens : List Token}

theorem scan_single (c : Char) (counts : Category.ofChar c ≠ .noise)
    (scanned : scan behind = .ok tokens)
    (apart : ∀ next ∈ tokens.head?, (Category.ofChar c).joins next.category = false) :
    scan (c :: behind) = .ok (⟨[c], Category.ofChar c⟩ :: tokens) := by
  rw [scan_cons c scanned]
  cases tokens with
  | nil => exact prepend_nil counts
  | cons next rest => exact prepend_apart counts (apart next rfl)

theorem scan_uniform {kind : Category} (counts : kind ≠ .noise)
    (joined : kind.joins kind = true) (absorbed : kind.absorb kind = .ok kind)
    (scanned : scan behind = .ok tokens)
    (apart : ∀ next ∈ tokens.head?, kind.joins next.category = false)
    (text : Text) (nonempty : text ≠ []) (uniform : ∀ c ∈ text, Category.ofChar c = kind) :
    scan (text ++ behind) = .ok (⟨text, kind⟩ :: tokens) := by
  induction text with
  | nil => exact absurd rfl nonempty
  | cons c rest ih =>
      have first : Category.ofChar c = kind := uniform c (by simp)
      subst kind
      cases rest with
      | nil => exact scan_single c counts scanned apart
      | cons d others =>
          have grown := ih (by simp) (fun e member => uniform e (by simp [member]))
          rw [List.cons_append, scan_cons c grown]
          exact prepend_joined counts joined absorbed

/-- A sign in front of a run changes the run's sign as the minus signs are counted. -/
theorem absorb_signOf (c : Char) (sign : c = '+' ∨ c = '-') (run : Text) :
    (Category.ofChar c).absorb (.operator (signOf run)) =
      .ok (.operator (signOf (c :: run))) := by
  rcases Nat.mod_two_eq_zero_or_one (run.count '-') with even | odd
  · rcases sign with rfl | rfl
    · simp [signOf, even]
      rfl
    · have next : (run.count '-' + 1) % 2 = 1 := by omega
      simp [signOf, even, next]
      rfl
  · rcases sign with rfl | rfl
    · simp [signOf, odd]
      rfl
    · have next : (run.count '-' + 1) % 2 = 0 := by omega
      simp [signOf, odd, next]
      rfl

theorem scan_signs (scanned : scan behind = .ok tokens)
    (apart : ∀ next ∈ tokens.head?, next.category.isSign = false)
    (run : Text) (nonempty : run ≠ []) (signs : ∀ c ∈ run, c = '+' ∨ c = '-') :
    scan (run ++ behind) = .ok (⟨run, .operator (signOf run)⟩ :: tokens) := by
  induction run with
  | nil => exact absurd rfl nonempty
  | cons c rest ih =>
      have sign := signs c (by simp)
      have single : Category.ofChar c = .operator (signOf [c]) := by
        rcases sign with rfl | rfl <;> rfl
      have counts : Category.ofChar c ≠ .noise := by simp [single]
      cases rest with
      | nil =>
          rw [← single]
          refine scan_single c counts scanned ?_
          intro next member
          rw [Category.joins_eq_false_iff, single]
          have other := apart next member
          refine ⟨fun both => by simp [other] at both, fun same => ?_⟩
          rw [← same.1, Category.isSign, signOf_isSign] at other
          cases other
      | cons d others =>
          have grown := ih (by simp) (fun e member => signs e (by simp [member]))
          rw [List.cons_append, scan_cons c grown]
          refine prepend_joined counts ?_ (absorb_signOf c sign _)
          rw [Category.joins_eq_true_iff, single]
          exact .inl ⟨signOf_isSign _, signOf_isSign _⟩

/-- A regular token is read back as it is, if it does not join what follows. -/
theorem scan_token (token : Token) (regular : token.Regular)
    (scanned : scan behind = .ok tokens)
    (apart : ∀ next ∈ tokens.head?, token.category.joins next.category = false) :
    scan (token.text ++ behind) = .ok (token :: tokens) := by
  obtain ⟨text, category⟩ := token
  have signs (symbol : Operator) (isSign : symbol.isSign = true) (nonempty : text ≠ [])
      (run : ∀ c ∈ text, c = '+' ∨ c = '-') (sign : signOf text = symbol)
      (category_eq : category = .operator symbol) :
      scan (text ++ behind) = .ok (⟨text, category⟩ :: tokens) := by
    subst category_eq
    rw [← sign]
    refine scan_signs scanned ?_ text nonempty run
    intro next member
    have other := (Category.joins_eq_false_iff _ _).mp (apart next member)
    simpa [Category.isSign, isSign] using other.1
  have single (c : Char) (same : text = [c]) (kind : Category.ofChar c = category)
      (counts : category ≠ .noise) : scan (text ++ behind) = .ok (⟨text, category⟩ :: tokens) := by
    subst same kind
    exact scan_single c counts scanned apart
  cases category with
  | noise => exact False.elim regular
  | numeral =>
      exact scan_uniform (by simp) rfl rfl scanned apart text regular.1
        fun c member => Category.ofChar_digit (regular.2 c member)
  | name =>
      exact scan_uniform (by simp) rfl rfl scanned apart text regular.1
        fun c member => Category.ofChar_letter (regular.2 c member)
  | opening => exact single '(' regular rfl (by simp)
  | closing => exact single ')' regular rfl (by simp)
  | operator symbol =>
      cases symbol with
      | add =>
          exact signs .add rfl regular.1 regular.2.1 (by simp [signOf, regular.2.2]) rfl
      | subtract =>
          exact signs .subtract rfl regular.1 regular.2.1 (by simp [signOf, regular.2.2]) rfl
      | multiply => exact single '*' regular rfl (by simp)
      | divide => exact single '/' regular rfl (by simp)
      | power => exact single '^' regular rfl (by simp)

end Growth

/-- Tokens of which none joins the next are read back. -/
theorem scan_flatMap (tokens : List Token) (regular : ∀ token ∈ tokens, token.Regular)
    (apart : tokens.IsChain fun token next => token.category.joins next.category = false) :
    scan (tokens.flatMap Token.text) = .ok tokens := by
  induction tokens with
  | nil => rfl
  | cons token rest ih =>
      rw [List.isChain_cons] at apart
      rw [List.flatMap_cons]
      exact scan_token token (regular token (by simp))
        (ih (fun next member => regular next (by simp [member])) apart.2) apart.1

end Token

end Reckoner
