import Reckoner.Journal.Event
import Reckoner.Proofs.Journal.Line
import Reckoner.Proofs.Operand
import Reckoner.Proofs.Text.Trim

set_option autoImplicit false

/-!
Events as entries of the journal. What users wrote is quoted there, but for the names that they
assign to, which are rows of letters; and an event makes an entry unless it names a number with too
many digits, or a limit that is not left.
-/
namespace Reckoner

theorem Category.legible_label (category : Category) : category.label.Legible := by
  cases category with
  | operator symbol => cases symbol <;> decide
  | noise => decide
  | numeral => decide
  | name => decide
  | opening => decide
  | closing => decide

namespace Token

theorem legible_render (token : Token) : token.render.Legible :=
  (((Text.Legible.append (by decide) (Text.legible_quoted token.text)).append (by decide)).append
    token.category.legible_label).append (by decide)

theorem legible_renderAll (tokens : List Token) : (renderAll tokens).Legible := by
  have each : ∀ part ∈ tokens.map render, part.Legible :=
    List.forall_mem_map.mpr fun token _ => token.legible_render
  have comma : Text.Legible ", ".toList := by decide
  exact ((Text.legible_join comma each).cons (by decide)).append (by decide)

end Token

namespace FaultKind

theorem legible_message (kind : FaultKind) : kind.message.Legible := by
  cases kind <;> decide

theorem legible_code (kind : FaultKind) : kind.code.Legible := by
  cases kind <;> decide

end FaultKind

namespace Numeral

theorem legible_writeShort? {n : Int} {text : Text} (written : writeShort? n = some text) :
    text.Legible := by
  obtain ⟨-, same⟩ := Option.ite_none_left_eq_some.mp written
  obtain rfl := Option.some.inj same
  exact Decimal.legible_ofInt n

theorem isSome_writeShort? (n : Int) :
    (writeShort? n).isSome = true ↔ n.natAbs < 10 ^ maxDigits := by
  have digits := Nat.length_toDigits_le_iff (b := 10) (k := maxDigits) (n := n.natAbs) (by decide)
    (by decide)
  rw [← Decimal.ofNat_eq] at digits
  rw [← digits, writeShort?]
  split
  · next long => simp [long]
  · next short => simpa using short

end Numeral

namespace Event

/-- A text that the event names without marks around it is legible. -/
def Contained : Event → Prop
  | .assigned name _ => name.Legible
  | .dialogueStarted format => format.Legible
  | _ => True

def numbers : Event → List Int
  | .exponentRefused limit => limit.toList
  | .powerRefused bits limit => [bits, limit]
  | .operandsIgnored count => [count]
  | .inputRefused length => [length]
  | .assigned _ bits => [bits]
  | _ => []

/-- The event can be told of: its numbers are short enough, and no limit is missing. -/
def Tellable (event : Event) : Prop :=
  event ≠ .exponentRefused none ∧ ∀ number ∈ event.numbers, number.natAbs < 10 ^ Numeral.maxDigits

/-- An event leaves an entry exactly if it can be told of. -/
theorem isSome_entry (event : Event) : event.entry.isSome = true ↔ event.Tellable := by
  have short := Numeral.isSome_writeShort?
  have told (number : Int) (shown : Text → Text) :
      ((Numeral.writeShort? number).bind fun text => some (shown text)).isSome = true ↔
        number.natAbs < 10 ^ Numeral.maxDigits := by
    rw [← short]
    cases Numeral.writeShort? number <;> rfl
  rw [entry, Option.isSome_map]
  cases event with
  | scanned text tokens => simp [message, Tellable, numbers]
  | reordered tokens => simp [message, Tellable, numbers]
  | exponentRefused limit =>
      cases limit with
      | none => simp [message, Tellable, numbers]
      | some limit => exact (told limit _).trans (by simp [Tellable, numbers])
  | powerRefused bits limit =>
      have both : (powerRefused bits limit).message.isSome = true ↔
          (Numeral.writeShort? bits).isSome = true ∧ (Numeral.writeShort? limit).isSome = true := by
        simp only [message]
        cases Numeral.writeShort? bits with
        | none => simp
        | some first => cases Numeral.writeShort? limit <;> simp
      rw [both, short, short]
      simp [Tellable, numbers]
  | operandsIgnored count => exact (told count _).trans (by simp [Tellable, numbers])
  | inputRefused length => exact (told length _).trans (by simp [Tellable, numbers])
  | assigned name bits => exact (told bits _).trans (by simp [Tellable, numbers])
  | lineFailed text fault => simp [message, Tellable, numbers]
  | evaluationFailed text fault => simp [message, Tellable, numbers]
  | dialogueStarted format => simp [message, Tellable, numbers]

theorem legible_source (event : Event) : event.source.Legible := by
  cases event with
  | scanned => exact (by decide : Text.Legible "lexer".toList)
  | reordered => exact (by decide : Text.Legible "parser".toList)
  | exponentRefused => exact (by decide : Text.Legible "evaluator".toList)
  | powerRefused => exact (by decide : Text.Legible "evaluator".toList)
  | operandsIgnored => exact (by decide : Text.Legible "evaluator".toList)
  | inputRefused => exact (by decide : Text.Legible "calculator".toList)
  | assigned => exact (by decide : Text.Legible "calculator".toList)
  | lineFailed => exact (by decide : Text.Legible "calculator".toList)
  | evaluationFailed => exact (by decide : Text.Legible "api".toList)
  | dialogueStarted => exact (by decide : Text.Legible "cli".toList)

section Contained

variable {event : Event} (contained : event.Contained)

include contained

theorem Contained.message {shown : Text} (told : event.message = some shown) : shown.Legible := by
  cases event with
  | scanned text tokens =>
      obtain rfl := Option.some.inj told
      exact ((Text.Legible.append (by decide) (Text.legible_quoted text)).append
        (by decide)).append (Token.legible_renderAll tokens)
  | reordered tokens =>
      obtain rfl := Option.some.inj told
      exact Text.Legible.append (by decide) (Token.legible_renderAll tokens)
  | exponentRefused limit =>
      obtain ⟨left, -, told⟩ := Option.bind_eq_some_iff.mp told
      obtain ⟨number, written, told⟩ := Option.bind_eq_some_iff.mp told
      obtain rfl := Option.some.inj told
      exact Text.Legible.append (by decide) (Numeral.legible_writeShort? written)
  | powerRefused bits limit =>
      obtain ⟨size, first, told⟩ := Option.bind_eq_some_iff.mp told
      obtain ⟨most, second, told⟩ := Option.bind_eq_some_iff.mp told
      obtain rfl := Option.some.inj told
      exact ((Text.Legible.append (by decide) (Numeral.legible_writeShort? first)).append
        (by decide)).append (Numeral.legible_writeShort? second)
  | operandsIgnored count =>
      obtain ⟨number, written, told⟩ := Option.bind_eq_some_iff.mp told
      obtain rfl := Option.some.inj told
      exact (Text.Legible.append (by decide) (Numeral.legible_writeShort? written)).append
        (by decide)
  | inputRefused length =>
      obtain ⟨number, written, told⟩ := Option.bind_eq_some_iff.mp told
      obtain rfl := Option.some.inj told
      exact (Text.Legible.append (by decide) (Numeral.legible_writeShort? written)).append
        (by decide)
  | assigned name bits =>
      obtain ⟨number, written, told⟩ := Option.bind_eq_some_iff.mp told
      obtain rfl := Option.some.inj told
      exact (((Text.Legible.append (by decide) contained).append (by decide)).append
        (Numeral.legible_writeShort? written)).append (by decide)
  | lineFailed text fault =>
      obtain rfl := Option.some.inj told
      exact ((Text.Legible.append (by decide) (Text.legible_quoted text)).append
        (by decide)).append fault.kind.legible_message
  | evaluationFailed text fault =>
      obtain rfl := Option.some.inj told
      exact ((Text.Legible.append (by decide) (Text.legible_quoted text)).append
        (by decide)).append fault.kind.legible_message
  | dialogueStarted format =>
      obtain rfl := Option.some.inj told
      exact (Text.Legible.append (by decide) contained).append (by decide)

theorem Contained.entry {made : Entry} (told : event.entry = some made) : made.Clear := by
  obtain ⟨shown, said, rfl⟩ := Option.map_eq_some_iff.mp told
  refine ⟨event.legible_source, contained.message said, ?_⟩
  intro code coded
  cases event with
  | lineFailed text fault =>
      obtain rfl := Option.some.inj coded
      exact fault.kind.legible_code
  | evaluationFailed text fault =>
      obtain rfl := Option.some.inj coded
      exact fault.kind.legible_code
  | _ => cases coded

end Contained

end Event

namespace Calculator

/-- What can be told of a text that is worked out. -/
inductive Tells (limits : Limits) (memory : Variables) (text : Text) : Event → Prop where
  | scanned (tokens : List Token) : Tells limits memory text (.scanned text tokens)
  | reordered (tokens : List Token) : Tells limits memory text (.reordered tokens)
  | exponentRefused : Tells limits memory text (.exponentRefused (some limits.maxExponent))
  | powerRefused {sent : List Token} {bits : Nat} (ordered : postOrder text = .ok sent)
      (refused : Evaluation.run limits memory [] sent =
        .error (.invalidExpression (.resultTooLarge bits))) :
      Tells limits memory text (.powerRefused bits limits.maxResultBits)
  | operandsIgnored {sent : List Token} {stack : Evaluation.Stack}
      (ordered : postOrder text = .ok sent)
      (ran : Evaluation.run limits memory [] sent = .ok stack) :
      Tells limits memory text (.operandsIgnored (stack.length - 1))
  | inputRefused : Tells limits memory text (.inputRefused text.length)
  | assigned {name operand : Text} {value : Int} (part : operand.length ≤ text.length)
      (valued : assignedValue memory name operand = .ok value) :
      Tells limits memory text (.assigned name (bitLength value))
  | lineFailed (line : Text) (fault : Fault) : Tells limits memory text (.lineFailed line fault)
  | evaluationFailed (line : Text) (fault : Fault) :
      Tells limits memory text (.evaluationFailed line fault)

variable {limits : Limits} {memory : Variables} {text : Text} {event : Event}

theorem tells_reading (limits : Limits) (memory : Variables)
    (told : event ∈ readingEvents text) : Tells limits memory text event := by
  unfold readingEvents at told
  split at told
  · cases told
  rcases List.mem_cons.mp told with rfl | told
  · exact .scanned _
  split at told
  · cases told
  · obtain rfl := List.mem_singleton.mp told
    exact .reordered _

theorem tells_evaluation {sent : List Token} (ordered : postOrder text = .ok sent)
    (told : event ∈ evaluationEvents limits memory sent) : Tells limits memory text event := by
  unfold evaluationEvents at told
  split at told
  · obtain rfl := List.mem_singleton.mp told
    exact .exponentRefused
  · next refused =>
      obtain rfl := List.mem_singleton.mp told
      exact .powerRefused ordered refused
  · cases told
  · next ran =>
      split at told
      · obtain rfl := List.mem_singleton.mp told
        exact .operandsIgnored ordered ran
      · cases told

theorem tells_expression (told : event ∈ expressionEvents limits memory text) :
    Tells limits memory text event := by
  rcases List.mem_append.mp told with read | told
  · exact tells_reading limits memory read
  split at told
  · cases told
  · next sent ordered => exact tells_evaluation ordered told

theorem tells_assignment {name operand : Text} (part : operand.length ≤ text.length)
    (told : event ∈ assignmentEvents memory name operand) : Tells limits memory text event := by
  unfold assignmentEvents at told
  split at told
  · next valued =>
      obtain rfl := List.mem_singleton.mp told
      exact .assigned part valued
  · cases told

theorem tells_calculation (told : event ∈ calculationEvents limits memory text) :
    Tells limits memory text event := by
  unfold calculationEvents at told
  split at told
  · cases told
  split at told
  · obtain rfl := List.mem_singleton.mp told
    exact .inputRefused
  by_cases equals : '=' ∈ text
  · obtain ⟨left, right, whole, absent⟩ := List.eq_append_cons_of_mem equals
    have parts := Text.splitFirst_append '=' left right absent
    rw [← whole] at parts
    rw [parts] at told
    have part : (Text.trim right).length ≤ text.length := by
      have trimmed := Text.length_trim_le right
      rw [whole, List.length_append, List.length_cons]
      omega
    exact tells_assignment part told
  · rw [Text.splitFirst_of_notMem '=' text equals] at told
    exact tells_expression told

theorem tells_line (told : event ∈ lineEvents limits memory text) :
    Tells limits memory text.trim event := by
  rcases List.mem_append.mp told with worked | told
  · exact tells_calculation worked
  split at told
  · cases told
  · obtain rfl := List.mem_singleton.mp told
    exact .lineFailed _ _

theorem tells_report (told : event ∈ reportEvents limits memory text) :
    Tells limits memory text.trim event := by
  rcases List.mem_append.mp told with worked | told
  · exact tells_calculation worked
  split at told
  · cases told
  · obtain rfl := List.mem_singleton.mp told
    exact .evaluationFailed _ _

theorem tells_command (told : event ∈ commandEvents limits memory text) :
    Tells limits memory text.trim event := by
  unfold commandEvents at told
  split at told
  · cases told
  · have worked := tells_line told
    rwa [Text.trim_trim] at worked

/-- The names that are assigned to are legible, and other texts are quoted. -/
theorem Tells.contained (tells : Tells limits memory text event) : event.Contained := by
  cases tells with
  | @assigned name operand value part valued =>
      have named : isName name = true := by
        by_contra other
        simp [assignedValue, other] at valued
      obtain ⟨sign, body, signs, -, letters, rfl⟩ := (isName_eq_true_iff name).mp named
      refine Text.Legible.append ?_ (Text.legible_of_letters letters)
      rcases signs with rfl | rfl | rfl <;> decide
  | _ => trivial

end Calculator

end Reckoner
