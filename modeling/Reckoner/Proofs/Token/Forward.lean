import Reckoner.Proofs.Outcome
import Reckoner.Proofs.Token.Division
import Reckoner.Text.Blank

set_option autoImplicit false

/-!
The scan of a text from its start. The last token stays open while characters join it, and is put
to the others when one does not. This comes to the same tokens as the scan from the end, or to the
same fault, since it does not matter in which order neighbours grow together.
-/
namespace Reckoner

namespace Category

theorem isSign_cases {category : Category} (sign : category.isSign = true) :
    category = .operator .add ∨ category = .operator .subtract := by
  cases category with
  | operator symbol =>
      cases symbol with
      | add => exact .inl rfl
      | subtract => exact .inr rfl
      | _ => cases sign
  | _ => cases sign

/-- A sign joins the signs, and they join it. -/
theorem joins_sign {category : Category} (sign : category.isSign = true) (other : Category) :
    category.joins other = other.isSign ∧ other.joins category = other.isSign := by
  have signs (same : category = other) : other.isSign = true := same ▸ sign
  constructor
  · rw [Bool.eq_iff_iff, joins_eq_true_iff]
    grind
  · rw [Bool.eq_iff_iff, joins_eq_true_iff]
    grind

theorem absorb_sign {first second grown : Category} (left : first.isSign = true)
    (right : second.isSign = true) (absorbed : first.absorb second = .ok grown) :
    grown.isSign = true := by
  rcases isSign_cases left with rfl | rfl
  · rcases isSign_cases right with rfl | rfl
    · cases absorbed
      rfl
    · cases absorbed
      rfl
  · rcases isSign_cases right with rfl | rfl
    · cases absorbed
      rfl
    · cases absorbed
      rfl

/-- What joins a category that is no sign is of that category, and leaves it as it is. -/
theorem absorb_other {first second grown : Category} (other : first.isSign = false)
    (joined : first.joins second = true) (absorbed : first.absorb second = .ok grown) :
    grown = first := by
  rcases (joins_eq_true_iff first second).mp joined with signs | ⟨rfl, -⟩
  · rw [other] at signs
    cases signs.1
  · cases first with
    | operator symbol =>
        cases symbol with
        | add => cases other
        | subtract => cases other
        | _ => cases absorbed
    | numeral =>
        cases absorbed
        rfl
    | name =>
        cases absorbed
        rfl
    | _ => cases absorbed

theorem eq_of_joins {first second : Category} (other : first.isSign = false)
    (joined : first.joins second = true) : first = second := by
  rcases (joins_eq_true_iff first second).mp joined with signs | same
  · rw [other] at signs
    cases signs.1
  · exact same.1

theorem absorb_error {first second : Category} {fault : Fault}
    (refused : first.absorb second = .error fault) :
    fault = .invalidExpression .repeatedOperator := by
  unfold absorb at refused
  split at refused
  all_goals cases refused
  rfl

/-- What two categories grow into joins others as either of the two does. -/
theorem joins_grown {first second grown : Category} (joined : first.joins second = true)
    (absorbed : first.absorb second = .ok grown) (other : Category) :
    grown.joins other = second.joins other ∧ other.joins grown = other.joins first := by
  cases left : first.isSign with
  | true =>
      have right : second.isSign = true := by rw [← (joins_sign left second).1, joined]
      have sign := absorb_sign left right absorbed
      rw [(joins_sign sign other).1, (joins_sign sign other).2, (joins_sign right other).1,
        (joins_sign left other).2]
      exact ⟨rfl, rfl⟩
  | false =>
      rw [absorb_other left joined absorbed, eq_of_joins left joined]
      exact ⟨rfl, rfl⟩

/-- Three neighbours grow together from either side. -/
theorem absorb_assoc {first second third : Category} (front : first.joins second = true)
    (back : second.joins third = true) :
    (first.absorb second >>= fun grown => grown.absorb third) =
      (second.absorb third >>= fun grown => first.absorb grown) := by
  cases left : first.isSign with
  | true =>
      have middle : second.isSign = true := by rw [← (joins_sign left second).1, front]
      have right : third.isSign = true := by rw [← (joins_sign middle third).1, back]
      rcases isSign_cases left with rfl | rfl <;> rcases isSign_cases middle with rfl | rfl <;>
        rcases isSign_cases right with rfl | rfl <;> rfl
  | false =>
      obtain rfl := eq_of_joins left front
      obtain rfl := eq_of_joins left back
      cases absorbed : first.absorb first with
      | ok grown =>
          obtain rfl := absorb_other left front absorbed
          rfl
      | error fault => rfl

end Category

/-- The tokens that are done, and the one that may still grow. At the start this has no text. -/
structure Reader where
  closed : List Token
  current : Token

namespace Reader

def start : Reader := ⟨[], [], .noise⟩

def tokens (reader : Reader) : List Token :=
  if reader.current.text.isEmpty then reader.closed else reader.closed ++ [reader.current]

def take (reader : Reader) (c : Char) : Except Fault Reader :=
  match Category.ofChar c with
  | .noise => .ok reader
  | category =>
      if reader.current.category.joins category then do
        let grown ← reader.current.category.absorb category
        return ⟨reader.closed, reader.current.text ++ [c], grown⟩
      else .ok ⟨reader.tokens, [c], category⟩

def scan (text : Text) : Except Fault (List Token) :=
  if text.isBlank then .ok []
  else do return (← text.foldlM take start).tokens

theorem take_noise {c : Char} (noise : Category.ofChar c = .noise) (reader : Reader) :
    reader.take c = .ok reader := by
  simp only [take, noise]

theorem take_counts {c : Char} (counts : Category.ofChar c ≠ .noise) (reader : Reader) :
    reader.take c =
      if reader.current.category.joins (Category.ofChar c) then do
        let grown ← reader.current.category.absorb (Category.ofChar c)
        return ⟨reader.closed, reader.current.text ++ [c], grown⟩
      else .ok ⟨reader.tokens, [c], Category.ofChar c⟩ := by
  unfold take
  split
  · contradiction
  · rfl

end Reader

namespace Token

/-- Puts an open token in front of the tokens of the text behind it. -/
def attach (token : Token) : List Token → Except Fault (List Token)
  | [] => .ok [token]
  | next :: rest =>
      if token.category.joins next.category then do
        let grown ← token.category.absorb next.category
        return ⟨token.text ++ next.text, grown⟩ :: rest
      else .ok (token :: next :: rest)

theorem prepend_eq_attach {c : Char} (counts : Category.ofChar c ≠ .noise) (tokens : List Token) :
    prepend c tokens = attach ⟨[c], Category.ofChar c⟩ tokens := by
  cases tokens with
  | nil => exact prepend_nil counts
  | cons next rest =>
      cases joined : (Category.ofChar c).joins next.category with
      | false => rw [prepend_apart counts joined, attach, joined]; rfl
      | true =>
          cases absorbed : (Category.ofChar c).absorb next.category with
          | ok grown =>
              rw [prepend_joined counts joined absorbed]
              simp only [attach, joined, absorbed, ↓reduceIte]
              rfl
          | error fault =>
              rw [prepend_refused counts joined absorbed]
              simp only [attach, joined, absorbed, ↓reduceIte]
              rfl

variable (token next : Token)

/-- A token that joins the next one may be put in front before or after that one is. -/
theorem attach_joined (joined : token.category.joins next.category = true) (tokens : List Token) :
    (attach next tokens >>= attach token) = (do
      let grown ← token.category.absorb next.category
      attach ⟨token.text ++ next.text, grown⟩ tokens) := by
  have grows : attach token (next :: []) = (do
      let grown ← token.category.absorb next.category
      return [⟨token.text ++ next.text, grown⟩]) := by
    rw [attach, if_pos joined]
  cases tokens with
  | nil => exact grows
  | cons behind rest =>
      have later {grown : Category} (absorbed : token.category.absorb next.category = .ok grown) :=
        (Category.joins_grown joined absorbed behind.category).1
      cases further : next.category.joins behind.category with
      | true =>
          have order := Category.absorb_assoc joined further
          have front : (attach next (behind :: rest) >>= attach token) = (do
              let grown ← next.category.absorb behind.category
              let grown ← token.category.absorb grown
              return ⟨token.text ++ (next.text ++ behind.text), grown⟩ :: rest) := by
            simp only [attach, further, ↓reduceIte]
            cases absorbed : next.category.absorb behind.category with
            | error fault => rfl
            | ok grown =>
                have still := (Category.joins_grown further absorbed token.category).2
                simp only [ok_bind, pure_eq_ok, attach, still, joined, ↓reduceIte]
          have back : (do
              let grown ← token.category.absorb next.category
              attach ⟨token.text ++ next.text, grown⟩ (behind :: rest)) = (do
              let grown ← token.category.absorb next.category
              let grown ← grown.absorb behind.category
              return ⟨token.text ++ next.text ++ behind.text, grown⟩ :: rest) := by
            cases absorbed : token.category.absorb next.category with
            | error fault => rfl
            | ok grown => simp only [ok_bind, attach, later absorbed, further, ↓reduceIte]
          rw [front, back, ← bind_assoc, ← bind_assoc, order, List.append_assoc]
      | false =>
          simp only [attach, further, Bool.false_eq_true, ↓reduceIte, ok_bind, joined]
          cases absorbed : token.category.absorb next.category with
          | ok grown =>
              rw [ok_bind, ok_bind, later absorbed, further]
              rfl
          | error fault => rfl

theorem attach_apart (apart : token.category.joins next.category = false) (tokens : List Token) :
    (attach next tokens >>= attach token) = (do return token :: (← attach next tokens)) := by
  cases tokens with
  | nil => simp only [attach, ok_bind, apart, Bool.false_eq_true, ↓reduceIte, pure_eq_ok]
  | cons behind rest =>
      cases further : next.category.joins behind.category with
      | false =>
          simp only [attach, further, ok_bind, apart, Bool.false_eq_true, ↓reduceIte, pure_eq_ok]
      | true =>
          simp only [attach, further, ↓reduceIte]
          cases absorbed : next.category.absorb behind.category with
          | error fault => rfl
          | ok grown =>
              have still := (Category.joins_grown further absorbed token.category).2
              simp only [ok_bind, pure_eq_ok, attach, still, apart, Bool.false_eq_true, ↓reduceIte]

end Token

namespace Reader

theorem tokens_opened {reader : Reader} (opened : reader.current.text ≠ []) :
    reader.tokens = reader.closed ++ [reader.current] := by
  simp [tokens, opened]

/-- The tokens behind an open token are those of the text that is left, with this one in front. -/
theorem foldlM_take (text : Text) (reader : Reader) (opened : reader.current.text ≠ []) :
    (text.foldlM take reader).map tokens =
      (Token.scan text >>= reader.current.attach).map (reader.closed ++ ·) := by
  induction text generalizing reader with
  | nil => exact congrArg Except.ok (tokens_opened opened)
  | cons c rest ih =>
      rw [List.foldlM_cons, Token.scan]
      by_cases noise : Category.ofChar c = .noise
      · have passed : Token.prepend c = Except.ok := funext (Token.prepend_noise noise)
        rw [take_noise noise, ok_bind, ih reader opened, passed]
        cases Token.scan rest <;> rfl
      have front : Token.prepend c = Token.attach ⟨[c], Category.ofChar c⟩ :=
        funext (Token.prepend_eq_attach noise)
      rw [take_counts noise, front, bind_assoc]
      cases joined : reader.current.category.joins (Category.ofChar c) with
      | false =>
          have apart := Token.attach_apart reader.current ⟨[c], Category.ofChar c⟩ joined
          have later := ih ⟨reader.tokens, [c], Category.ofChar c⟩ (List.cons_ne_nil c [])
          simp only [Bool.false_eq_true, ↓reduceIte, ok_bind, apart]
          rw [later, tokens_opened opened]
          cases Token.scan rest with
          | error fault => rfl
          | ok tokens =>
              simp only [ok_bind]
              cases Token.attach ⟨[c], Category.ofChar c⟩ tokens with
              | error fault => rfl
              | ok more => exact congrArg Except.ok (List.append_assoc ..)
      | true =>
          have grows := Token.attach_joined reader.current ⟨[c], Category.ofChar c⟩ joined
          simp only [↓reduceIte, grows]
          cases absorbed : reader.current.category.absorb (Category.ofChar c) with
          | ok grown =>
              have longer : reader.current.text ++ [c] ≠ [] := by simp
              exact ih ⟨reader.closed, reader.current.text ++ [c], grown⟩ longer
          | error fault =>
              -- A fault behind is noticed later here, but there is only one that a scan can have.
              obtain rfl := Category.absorb_error absorbed
              rcases Token.scan_settled rest with ⟨-, tokens, scanned, -⟩ | ⟨-, refused⟩
              · rw [scanned]
                rfl
              · rw [refused]
                rfl

/-- A text has the same tokens from its start as from its end. -/
theorem scan_eq (text : Text) : scan text = Token.scan text := by
  cases blank : text.isBlank with
  | true =>
      rw [← Token.scan_essence, Text.essence_isBlank blank, scan, blank]
      rfl
  | false =>
      suffices opens : (text.foldlM take start).map tokens = Token.scan text by
        rw [← opens, scan, blank]
        cases text.foldlM take start <;> rfl
      clear blank
      induction text with
      | nil => rfl
      | cons c rest ih =>
          rw [List.foldlM_cons, Token.scan]
          by_cases noise : Category.ofChar c = .noise
          · rw [take_noise noise, ok_bind, ih, funext (Token.prepend_noise noise)]
            cases Token.scan rest <;> rfl
          · have apart : start.current.category.joins (Category.ofChar c) = false := by
              rw [Category.joins_eq_false_iff]
              refine ⟨fun signs => ?_, fun same => noise same.1.symm⟩
              cases signs.1
            rw [take_counts noise, apart, funext (Token.prepend_eq_attach noise)]
            have later := foldlM_take rest ⟨[], [c], Category.ofChar c⟩ (List.cons_ne_nil c [])
            refine later.trans ?_
            cases Token.scan rest >>= Token.attach ⟨[c], Category.ofChar c⟩ <;> rfl

end Reader

end Reckoner
