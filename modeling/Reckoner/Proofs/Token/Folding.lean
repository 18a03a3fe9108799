import Reckoner.Proofs.Token.Division

set_option autoImplicit false

/-!
Runs of signs folded into single signs. A text without its noise, and with each run of signs
written as the one sign that it comes to, is scanned into the same tokens but for the texts of the
signs. Nothing in a folded text is left to fold.
-/
namespace Reckoner

theorem Token.signOf_mark {symbol : Operator} (sign : symbol.isSign = true) :
    signOf [symbol.mark] = symbol := by
  cases symbol <;> first | rfl | cases sign

/-- All that grows apart from signs are numerals and names. -/
theorem Category.absorb_of_joins {pending incoming grown : Category}
    (other : pending.isSign = false) (joined : pending.joins incoming = true)
    (absorbed : pending.absorb incoming = .ok grown) :
    incoming.isOperator = false ∧ grown.isOperator = false := by
  rcases (joins_eq_true_iff _ _).mp joined with signs | ⟨rfl, -⟩
  · rw [other] at signs
    cases signs.1
  · cases pending with
    | operator symbol =>
        cases symbol with
        | add => cases other
        | subtract => cases other
        | multiply => cases absorbed
        | divide => cases absorbed
        | power => cases absorbed
    | numeral =>
        cases absorbed
        exact ⟨rfl, rfl⟩
    | name =>
        cases absorbed
        exact ⟨rfl, rfl⟩
    | noise => cases absorbed
    | opening => cases absorbed
    | closing => cases absorbed

namespace Text

def signChar (c : Char) : Bool := c == '+' || c == '-'

/-- The text with each longest run of signs replaced by one sign: a minus if the run has an odd
number of minus signs, else a plus. -/
def foldSigns : Text → Text
  | [] => []
  | c :: rest =>
      if signChar c then
        (Token.signOf (c :: rest.takeWhile signChar)).mark :: foldSigns (rest.dropWhile signChar)
      else c :: foldSigns rest
termination_by text => text.length
decreasing_by
  · exact Nat.lt_succ_of_le (List.length_dropWhile_le signChar rest)
  · exact Nat.lt_succ_self rest.length

/-- The text without its noise, and with its runs of signs folded. -/
def normal (text : Text) : Text := foldSigns text.essence

theorem signChar_eq_true_iff (c : Char) : signChar c = true ↔ c = '+' ∨ c = '-' := by
  simp [signChar]

theorem signChar_mark {symbol : Operator} (sign : symbol.isSign = true) :
    signChar symbol.mark = true := by
  cases symbol <;> first | rfl | cases sign

theorem foldSigns_nil : foldSigns [] = [] := by
  rw [foldSigns]

theorem foldSigns_sign {c : Char} (sign : signChar c = true) (rest : Text) :
    foldSigns (c :: rest) = (Token.signOf (c :: rest.takeWhile signChar)).mark ::
      foldSigns (rest.dropWhile signChar) := by
  rw [foldSigns, if_pos sign]

theorem foldSigns_other {c : Char} (other : signChar c = false) (rest : Text) :
    foldSigns (c :: rest) = c :: foldSigns rest := by
  rw [foldSigns, if_neg (by rw [other]; exact Bool.false_ne_true)]

theorem mem_foldSigns {text : Text} {c : Char} (member : c ∈ foldSigns text) :
    c ∈ text ∨ signChar c = true := by
  induction text using foldSigns.induct with
  | case1 =>
      rw [foldSigns_nil] at member
      cases member
  | case2 d rest sign ih =>
      rw [foldSigns_sign sign, List.mem_cons] at member
      rcases member with rfl | later
      · exact .inr (signChar_mark (Token.signOf_isSign _))
      · exact (ih later).imp_left fun inside =>
          List.mem_cons_of_mem d (List.dropWhile_subset signChar inside)
  | case3 d rest other ih =>
      rw [foldSigns_other (Bool.eq_false_iff.mpr other), List.mem_cons] at member
      rcases member with rfl | later
      · exact .inl (List.mem_cons_self ..)
      · exact (ih later).imp_left (List.mem_cons_of_mem d)

theorem length_foldSigns_le (text : Text) : (foldSigns text).length ≤ text.length := by
  induction text using foldSigns.induct with
  | case1 => rw [foldSigns_nil]
  | case2 c rest sign ih =>
      have shorter := List.length_dropWhile_le signChar rest
      rw [foldSigns_sign sign, List.length_cons, List.length_cons]
      omega
  | case3 c rest other ih =>
      rw [foldSigns_other (Bool.eq_false_iff.mpr other), List.length_cons, List.length_cons]
      exact Nat.succ_le_succ ih

theorem head_dropWhile_signChar (text : Text) :
    ∀ c ∈ (text.dropWhile signChar).head?, signChar c = false := by
  intro c first
  simpa [Option.mem_def.mp first] using List.head?_dropWhile_not signChar text

/-- A text that starts with no sign does not start with one when it is folded. -/
theorem head_foldSigns {text : Text} (start : ∀ c ∈ text.head?, signChar c = false) :
    ∀ c ∈ (foldSigns text).head?, signChar c = false := by
  cases text with
  | nil =>
      rw [foldSigns_nil]
      exact start
  | cons c rest =>
      rw [foldSigns_other (start c rfl)]
      exact start

/-- A sign in front of what is folded and starts with no sign stays by itself. -/
theorem foldSigns_mark {symbol : Operator} (sign : symbol.isSign = true) {text : Text}
    (start : ∀ c ∈ text.head?, signChar c = false) :
    foldSigns (symbol.mark :: text) = symbol.mark :: foldSigns text := by
  have alone : text.takeWhile signChar = [] ∧ text.dropWhile signChar = text := by
    cases text with
    | nil => exact ⟨rfl, rfl⟩
    | cons c rest =>
        have other : ¬ signChar c = true := by simp [start c rfl]
        exact ⟨List.takeWhile_cons_of_neg other, List.dropWhile_cons_of_neg other⟩
  rw [foldSigns_sign (signChar_mark sign), alone.1, alone.2, Token.signOf_mark sign]

theorem foldSigns_foldSigns (text : Text) : foldSigns (foldSigns text) = foldSigns text := by
  induction text using foldSigns.induct with
  | case1 => rw [foldSigns_nil, foldSigns_nil]
  | case2 c rest sign ih =>
      have start := head_foldSigns (head_dropWhile_signChar rest)
      rw [foldSigns_sign sign, foldSigns_mark (Token.signOf_isSign _) start, ih]
  | case3 c rest other ih =>
      rw [foldSigns_other (Bool.eq_false_iff.mpr other),
        foldSigns_other (Bool.eq_false_iff.mpr other), ih]

theorem isSign_ofChar (c : Char) : (Category.ofChar c).isSign = signChar c := by
  rw [Bool.eq_iff_iff, Token.isSign_ofChar_iff, signChar_eq_true_iff]

end Text

namespace Token

/-- The token with an operator written as its mark, however it is spelled. -/
def folded (token : Token) : Token :=
  match token.category with
  | .operator symbol => ⟨[symbol.mark], .operator symbol⟩
  | _ => token

@[simp] theorem folded_category (token : Token) : token.folded.category = token.category := by
  cases kind : token.category <;> simp only [folded, kind]

theorem folded_of_not_isOperator {token : Token} (other : token.category.isOperator = false) :
    token.folded = token := by
  cases kind : token.category with
  | operator symbol => simp [kind, Category.isOperator] at other
  | _ => simp only [folded, kind]

theorem folded_text {token : Token} (operand : token.category.isOperand = true) :
    token.folded.text = token.text := by
  rw [folded_of_not_isOperator (Category.isOperator_eq_false operand)]

theorem folded_single (c : Char) :
    folded ⟨[c], Category.ofChar c⟩ = ⟨[c], Category.ofChar c⟩ := by
  rcases Category.ofChar_cases c with ⟨-, kind⟩ | ⟨-, kind⟩ | ⟨symbol, rfl, kind⟩ |
    ⟨-, kind⟩ | ⟨-, kind⟩ | kind
  all_goals simp only [folded, kind]

/-- A character that is no sign is put in front of folded tokens as it is in front of others. -/
theorem prepend_folded {c : Char} (other : (Category.ofChar c).isSign = false)
    (tokens : List Token) :
    prepend c (tokens.map folded) = (prepend c tokens).map (List.map folded) := by
  by_cases noise : Category.ofChar c = .noise
  · rw [prepend_noise noise, prepend_noise noise]
    rfl
  cases tokens with
  | nil =>
      rw [List.map_nil, prepend_nil noise, Except.map, List.map_singleton, folded_single]
  | cons next rest =>
      rw [List.map_cons]
      cases joined : (Category.ofChar c).joins next.category with
      | false =>
          rw [prepend_apart noise joined, prepend_apart noise (by rw [folded_category, joined])]
          simp only [Except.map, List.map_cons, folded_single]
      | true =>
          cases absorbed : (Category.ofChar c).absorb next.category with
          | error fault =>
              rw [prepend_refused noise joined absorbed,
                prepend_refused noise (by rw [folded_category, joined])
                  (by rw [folded_category, absorbed])]
              rfl
          | ok grown =>
              obtain ⟨apart, kept⟩ := Category.absorb_of_joins other joined absorbed
              rw [folded_of_not_isOperator apart, prepend_joined noise joined absorbed,
                prepend_joined noise joined absorbed]
              simp only [Except.map, List.map_cons]
              rw [folded_of_not_isOperator kept]

theorem scan_append_error {front behind : Text} {fault : Fault}
    (refused : scan behind = .error fault) : scan (front ++ behind) = .error fault := by
  induction front with
  | nil => exact refused
  | cons c rest ih =>
      rw [List.cons_append, scan, ih]
      rfl

/-- The first token of a text without noise starts with the first character. -/
theorem head_of_scan {text : Text} {tokens : List Token} (scanned : scan text = .ok tokens)
    (counts : ∀ c ∈ text, Category.ofChar c ≠ .noise)
    (start : ∀ c ∈ text.head?, Text.signChar c = false) :
    ∀ next ∈ tokens.head?, next.category.isSign = false := by
  have settled := settled_of_scan scanned
  rw [Text.essence_eq_self counts] at settled
  intro next first
  cases tokens with
  | nil => cases first
  | cons token rest =>
      obtain rfl := Option.some.inj first
      have regular := settled.regular token (by simp)
      rw [← Bool.not_eq_true]
      intro sign
      have signs := (sign_of_regular regular sign).2
      have whole := settled.whole
      cases spelled : token.text with
      | nil => exact regular.nonempty spelled
      | cons c others =>
          rw [List.flatMap_cons, spelled] at whole
          have other := start c (by rw [← whole]; rfl)
          have same := (Text.signChar_eq_true_iff c).mpr (signs c (by simp [spelled]))
          rw [other] at same
          cases same

/-- A run of signs is one token, and so is its sign in front of what is folded. -/
theorem scan_run {run behind : Text} (nonempty : run ≠ []) (signs : ∀ c ∈ run, c = '+' ∨ c = '-')
    (counts : ∀ c ∈ behind, Category.ofChar c ≠ .noise)
    (start : ∀ c ∈ behind.head?, Text.signChar c = false)
    (inner : scan behind.foldSigns = (scan behind).map (List.map folded)) :
    scan ((signOf run).mark :: behind.foldSigns) =
      (scan (run ++ behind)).map (List.map folded) := by
  rw [← List.singleton_append]
  cases scanned : scan behind with
  | error fault =>
      rw [scanned] at inner
      rw [scan_append_error scanned, scan_append_error inner]
      rfl
  | ok tokens =>
      rw [scanned] at inner
      have apart := head_of_scan scanned counts start
      have foldedApart : ∀ next ∈ (tokens.map folded).head?, next.category.isSign = false := by
        simpa using apart
      have sole : ∀ c ∈ [(signOf run).mark], c = '+' ∨ c = '-' := by
        rw [List.forall_mem_singleton, ← Text.signChar_eq_true_iff]
        exact Text.signChar_mark (signOf_isSign run)
      rw [scan_signs inner foldedApart _ (by simp) sole, signOf_mark (signOf_isSign run),
        scan_signs scanned apart run nonempty signs]
      rfl

/-- A text without noise is scanned into the same tokens when it is folded, with the texts of its
operators folded too, or is refused for the same fault. -/
theorem scan_foldSigns {text : Text} (counts : ∀ c ∈ text, Category.ofChar c ≠ .noise) :
    scan text.foldSigns = (scan text).map (List.map folded) := by
  -- By the runs of the text, since a sign in the middle of one has no token of its own.
  induction text using Text.foldSigns.induct with
  | case1 =>
      rw [Text.foldSigns_nil]
      rfl
  | case2 c rest sign ih =>
      have later : ∀ d ∈ rest.dropWhile Text.signChar, Category.ofChar d ≠ .noise := fun d member =>
        counts d (List.mem_cons_of_mem c (List.dropWhile_subset Text.signChar member))
      have signs : ∀ d ∈ c :: rest.takeWhile Text.signChar, d = '+' ∨ d = '-' := by
        rw [List.forall_mem_cons]
        exact ⟨(Text.signChar_eq_true_iff c).mp sign, fun d member =>
          (Text.signChar_eq_true_iff d).mp (List.all_eq_true.mp List.all_takeWhile d member)⟩
      have start := Text.head_dropWhile_signChar rest
      rw [Text.foldSigns_sign sign, scan_run (by simp) signs later start (ih later),
        List.cons_append, List.takeWhile_append_dropWhile]
  | case3 c rest other ih =>
      have unsigned := Bool.eq_false_iff.mpr other
      have inner := ih fun d member => counts d (List.mem_cons_of_mem c member)
      rw [Text.foldSigns_other unsigned]
      cases scanned : scan rest with
      | error fault =>
          rw [scanned] at inner
          simp only [scan, inner, scanned]
          rfl
      | ok tokens =>
          rw [scanned] at inner
          rw [scan_cons c inner, scan_cons c scanned]
          exact prepend_folded (by rw [Text.isSign_ofChar, unsigned]) tokens

end Token

namespace Text

theorem normal_counts {text : Text} : ∀ c ∈ text.normal, Category.ofChar c ≠ .noise := by
  intro c member
  rcases mem_foldSigns member with inside | sign
  · exact essence_counts c inside
  · rcases (signChar_eq_true_iff c).mp sign with rfl | rfl
    · decide
    · decide

variable (text : Text)

theorem normal_normal : text.normal.normal = text.normal := by
  rw [normal, essence_eq_self normal_counts, normal, foldSigns_foldSigns]

theorem normal_trim : text.normal.trim = text.normal :=
  trimBy_eq_self fun c member => Category.blankChar_eq_false (normal_counts c member)

theorem length_normal_le : text.normal.length ≤ text.trim.length :=
  calc text.normal.length
    _ ≤ text.essence.length := length_foldSigns_le text.essence
    _ = text.trim.essence.length := by rw [essence_trim]
    _ ≤ text.trim.length := List.length_filter_le ..

end Text

/-- A text and its normal text are scanned into the same tokens, but for the texts of operators. -/
theorem Token.scan_normal (text : Text) :
    scan text.normal = (scan text).map (List.map folded) := by
  rw [Text.normal, scan_foldSigns Text.essence_counts, scan_essence]

end Reckoner
