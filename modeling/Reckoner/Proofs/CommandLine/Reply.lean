import Reckoner.CommandLine.Dialogue
import Reckoner.Proofs.Number.Canonical
import Reckoner.Proofs.Session.Agreement

set_option autoImplicit false

/-!
What a client is told about one line, in each format. Both formats tell of the same report, though
the human one is made from the text that a line shows, and they answer commands alike.
-/
namespace Reckoner

/-- What a person is told of a record: its error if it is not ok, else its result if it has one. -/
inductive Record.Told (record : Record) : Text → Prop where
  | error {message : Text} (failed : record.get? "ok".toList = some (.flag false))
      (field : record.get? "error".toList = some (.text message)) : Told record (message ++ ['\n'])
  | result {content : Text} (succeeded : record.get? "ok".toList = some (.flag true))
      (field : record.get? "result".toList = some (.text content)) :
      Told record (content ++ ['\n'])
  | nothing (succeeded : record.get? "ok".toList = some (.flag true))
      (absent : record.get? "result".toList = none) : Told record []

theorem Text.isBlank_cons {c : Char} (counts : Category.ofChar c ≠ .noise) (rest : Text) :
    Text.isBlank (c :: rest) = false :=
  List.all_eq_false.mpr ⟨c, by simp, by simp [Category.blankChar_eq_false counts]⟩

theorem Decimal.ofInt_isBlank (n : Int) : (ofInt n).isBlank = false := by
  obtain ⟨c, rest, whole, starts⟩ := (ofInt_canonical n).starts
  rw [whole]
  rcases starts with rfl | digit
  · exact Text.isBlank_cons (by decide) rest
  · exact Text.isBlank_cons (by simp [Category.ofChar_digit digit]) rest

theorem FaultKind.message_isBlank (kind : FaultKind) : kind.message.isBlank = false := by
  cases kind with
  | calculator => decide
  | unknownVariable => decide
  | invalidIdentifier => decide
  | invalidExpression => decide
  | unknownCommand => decide

theorem Dialogue.shownLine_visible {text : Text} (visible : text.isBlank = false) :
    shownLine text = Format.outputLine text := by
  simp only [shownLine, visible, Bool.false_eq_true, ↓reduceIte]

namespace Report

variable (outcome : Except Fault (Option Int))

theorem told_humanText : (ofOutcome outcome).record.Told
    (Format.human.output (ofOutcome outcome).record) := by
  cases outcome with
  | error fault => exact .error rfl rfl
  | ok value =>
      cases value with
      | none => exact .nothing rfl rfl
      | some value => exact .result rfl rfl

/-- A report is never shown as blanks, so that nothing of it is held back. -/
theorem shownLine_shown : Dialogue.shownLine (ofOutcome outcome).shown =
    Format.human.output (ofOutcome outcome).record := by
  cases outcome with
  | error fault => exact Dialogue.shownLine_visible fault.kind.message_isBlank
  | ok value =>
      cases value with
      | none => rfl
      | some value => exact Dialogue.shownLine_visible (Decimal.ofInt_isBlank value)

end Report

namespace Calculator

variable (limits : Limits) (memory : Variables) (text : Text)

theorem isCommand_eq_true_iff : isCommand text = true ↔ ∃ rest, text = '/' :: rest := by
  unfold isCommand
  split
  · simp
  · next other => simpa using fun rest same => other rest same

theorem isCommand_eq_false_iff : isCommand text = false ↔ ∀ rest, text ≠ '/' :: rest := by
  rw [← Bool.not_eq_true, isCommand_eq_true_iff, not_exists]

theorem report_eq_ofOutcome : ∃ outcome, (report limits memory text).1 = .ofOutcome outcome := by
  unfold report
  cases calculate limits memory text.trim with
  | ok result => exact ⟨.ok result.1, rfl⟩
  | error fault => exact ⟨.error fault, rfl⟩

/-- A line shows what the report on it stands for. -/
theorem line_eq_report : line limits memory text =
    ((report limits memory text).1.shown, (report limits memory text).2) := by
  unfold line report
  cases calculate limits memory text.trim with
  | error fault => rfl
  | ok result =>
      obtain ⟨value, after⟩ := result
      cases value with
      | none => rfl
      | some value => rfl

theorem report_trim : report limits memory text.trim = report limits memory text := by
  simp only [report, Text.trim_trim]

theorem told_report : (report limits memory text).1.record.Told
    (Format.human.output (report limits memory text).1.record) := by
  obtain ⟨outcome, same⟩ := report_eq_ofOutcome limits memory text
  rw [same]
  exact Report.told_humanText outcome

end Calculator

namespace Dialogue

variable (limits : Limits) (format : Format) (memory : Variables)

theorem reply_command {line : Text} (meant : Calculator.isCommand line.trim = true) :
    reply limits format memory line =
      { output := shownLine (Calculator.reply line.trim), memory, events := [] } := by
  simp only [reply, meant, Bool.true_eq_false, and_false, ↓reduceIte,
    Calculator.command_eq_reply limits memory line meant, Calculator.commandEvents]

theorem reply_line {line : Text} (other : Calculator.isCommand line.trim = false) :
    (reply limits format memory line).output =
        format.output (Calculator.report limits memory line).1.record ∧
      (reply limits format memory line).memory = (Calculator.report limits memory line).2 := by
  cases format with
  | json => simp [reply, other]
  | human =>
      obtain ⟨outcome, same⟩ := Calculator.report_eq_ofOutcome limits memory line
      have shown := Report.shownLine_shown outcome
      rw [← same] at shown
      simp only [reply, reduceCtorEq, false_and, ↓reduceIte,
        Calculator.command_eq_line limits memory line other, Calculator.line_eq_report, shown,
        and_self]

theorem reply_breakdown (line : Text) : (reply limits format memory line).breakdown = none := by
  unfold reply
  split
  · rfl
  · rfl

end Dialogue

end Reckoner
