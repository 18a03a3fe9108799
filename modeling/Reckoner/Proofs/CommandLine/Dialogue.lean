import Reckoner.Proofs.CommandLine.Clause
import Reckoner.Proofs.CommandLine.Reply
import Reckoner.Proofs.Report.Json
import Reckoner.Proofs.Session.Assignment
import Reckoner.Proofs.Text.Lines

set_option autoImplicit false

/-!
Dialogues as sessions of one calculator. A dialogue hears the lines up to the one by which the user
leaves, says farewell and succeeds, and the two formats go through it side by side.
-/
namespace Reckoner

/-- The fields of the record on an outcome: success, with a result if there is one, or failure with
the message and the code of the fault. -/
inductive Record.Lists (record : Record) : Except Fault (Option Int) → Prop where
  | nothing (fields : record.entries = [("ok".toList, .flag true)]) : Lists record (.ok none)
  | result {value : Int} (fields : record.entries =
      [("ok".toList, .flag true), ("result".toList, .text (toString value).toList)]) :
      Lists record (.ok (some value))
  | fault {fault : Fault} {message code : Text} (worded : fault.Worded message code)
      (fields : record.entries = [("ok".toList, .flag false), ("error".toList, .text message),
        ("error_code".toList, .text code)]) : Lists record (.error fault)

theorem Report.lists_record (outcome : Except Fault (Option Int)) :
    (ofOutcome outcome).record.Lists outcome := by
  cases outcome with
  | error fault => exact .fault fault.worded rfl
  | ok value =>
      cases value with
      | none => exact .nothing rfl
      | some value =>
          refine .result ?_
          rw [← Decimal.ofInt_eq]
          rfl

theorem Calculator.lists_report (limits : Limits) (memory : Variables) (text : Text) :
    (report limits memory text).1.record.Lists
      ((calculate limits memory text.trim).map Prod.fst) := by
  unfold report
  cases calculate limits memory text.trim with
  | ok result => exact Report.lists_record (.ok result.1)
  | error fault => exact Report.lists_record (.error fault)

theorem Json.read?_output (record : Record) : read? (Format.json.output record) = some record :=
  read?_object record rfl

namespace Dialogue

/-- One line of a dialogue in both formats, and the variables that are left. A command is answered
in the same words. Of any other line there is one report, whose record lists what the line came to.
Programs can read this record from what they are shown, and people are told of it in words. -/
inductive Answers (limits : Limits) (memory : Variables) (line : Text) (human json : Turn)
    (after : Variables) : Prop where
  | command (meant : ∃ rest, line.trim = '/' :: rest) (kept : after = memory)
      (words : human.output = json.output)
      (shown : (line.trim = "/help".toList ∧
          json.output = Calculator.helpText ++ ['\n']) ∨
        (line.trim ≠ "/help".toList ∧ json.output = "Unknown command\n".toList))
  | report {report : Report} (other : ∀ rest, line.trim ≠ '/' :: rest)
      (reported : Calculator.report limits memory line = (report, after))
      (fields : report.record.Lists ((Calculator.calculate limits memory line.trim).map Prod.fst))
      (data : Json.read? json.output = some report.record)
      (closed : json.output.getLast? = some '\n')
      (words : report.record.Told human.output)

/-- The turns of a dialogue in both formats side by side: they answer the lines one by one, each
from the variables that the line before has left. -/
inductive SideBySide (limits : Limits) : Variables → List Text → List Turn → List Turn → Prop where
  | done (memory : Variables) : SideBySide limits memory [] [] []
  | next {memory : Variables} {line : Text} {lines : List Text} {human json : Turn}
      {humans jsons : List Turn} (answers : Answers limits memory line human json human.memory)
      (same : json.memory = human.memory)
      (later : SideBySide limits human.memory lines humans jsons) :
      SideBySide limits memory (line :: lines) (human :: humans) (json :: jsons)

/-- The lines that a dialogue hears: those before the first one that is the word for leaving. -/
def heard (input : Text) : List Text :=
  input.lines.takeWhile fun line => line.trim ≠ "/exit".toList

/-- Nothing is heard behind a line by which the user leaves. -/
theorem heard_append {input : Text} (ended : ∀ c ∈ input.getLast?, Text.lineEnd c = true)
    (left : ∃ line ∈ input.lines, line.trim = "/exit".toList) (later : Text) :
    heard (input ++ later) = heard input := by
  obtain ⟨others, whole⟩ := Text.lines_prefix_append ended later
  obtain ⟨line, member, exit⟩ := left
  have cut : (heard input).length ≠ input.lines.length := by
    intro all
    have stays := List.takeWhile_eq_self_iff.mp
      ((List.takeWhile_prefix _).eq_of_length all) line member
    simp [exit] at stays
  rw [heard, ← whole, List.takeWhile_append]
  exact if_neg cut

theorem leaves_eq (line : Text) : leaves line = decide (line.trim = "/exit".toList) :=
  beq_eq_decide _ _

section Turns

variable (limits : Limits) (format : Format) (memory : Variables)

theorem turn_judged (line : Text) :
    (turn ⟨limits, true⟩ format memory line).output = (reply limits format memory line).output ∧
      (turn ⟨limits, true⟩ format memory line).memory =
        (reply limits format memory line).memory ∧
      (turn ⟨limits, true⟩ format memory line).breakdown = none := by
  have steady : Bounds.answerBreaks ⟨limits, true⟩ memory line = false := by
    simp [Bounds.answerBreaks, Bounds.breaks]
  simp only [turn, steady, Bool.false_eq_true, ↓reduceIte, reply_breakdown, and_self]

theorem turns_leaves {line : Text} (exit : line.trim = "/exit".toList) (lines : List Text) :
    turns ⟨limits, true⟩ format memory (line :: lines) = [] := by
  simp only [turns, leaves_eq, exit, decide_true, ↓reduceIte]

theorem turns_stays {line : Text} (stays : line.trim ≠ "/exit".toList) (lines : List Text) :
    turns ⟨limits, true⟩ format memory (line :: lines) =
      turn ⟨limits, true⟩ format memory line ::
        turns ⟨limits, true⟩ format (reply limits format memory line).memory lines := by
  obtain ⟨-, kept, steady⟩ := turn_judged limits format memory line
  simp only [turns, leaves_eq, stays, kept, steady, decide_false, Bool.false_eq_true,
    Option.isSome_none, ↓reduceIte]

/-- What stands behind the word for leaving is not heard. -/
theorem turns_takeWhile (lines : List Text) :
    turns ⟨limits, true⟩ format memory lines = turns ⟨limits, true⟩ format memory
      (lines.takeWhile fun line => line.trim ≠ "/exit".toList) := by
  induction lines generalizing memory with
  | nil => rfl
  | cons line rest ih =>
      by_cases exit : line.trim = "/exit".toList
      · rw [turns_leaves limits format memory exit]
        simp [exit, turns]
      · rw [turns_stays limits format memory exit, ih]
        simp only [ne_eq, exit, not_false_eq_true, decide_true, List.takeWhile_cons_of_pos]
        rw [turns_stays limits format memory exit]

theorem breakdown_turns (lines : List Text) :
    breakdown (turns ⟨limits, true⟩ format memory lines) = none := by
  induction lines generalizing memory with
  | nil => rfl
  | cons line rest ih =>
      by_cases exit : line.trim = "/exit".toList
      · rw [turns_leaves limits format memory exit]
        rfl
      · rw [turns_stays limits format memory exit, breakdown, List.findSome?_cons,
          (turn_judged limits format memory line).2.2]
        exact ih _

end Turns

section SideBySide

variable (limits : Limits) (memory : Variables)

theorem reply_answers {line : Text} (stays : line.trim ≠ "/exit".toList) :
    Answers limits memory line (turn ⟨limits, true⟩ .human memory line)
      (turn ⟨limits, true⟩ .json memory line) (reply limits .human memory line).memory := by
  have human := (turn_judged limits .human memory line).1
  have json := (turn_judged limits .json memory line).1
  cases meant : Calculator.isCommand line.trim with
  | true =>
      have known := (Calculator.isCommand_eq_true_iff line.trim).mp meant
      rw [reply_command limits .json memory meant] at json
      rw [reply_command limits .human memory meant] at human ⊢
      refine .command known rfl (human.trans json.symm) ?_
      rw [json]
      by_cases help : line.trim = Calculator.helpCommand
      · rw [help]
        exact .inl ⟨rfl, rfl⟩
      · have unknown : Calculator.reply line.trim = FaultKind.unknownCommand.message := by
          simp [Calculator.reply, help, show line.trim ≠ Calculator.exitCommand from stays]
        rw [unknown]
        exact .inr ⟨help, rfl⟩
  | false =>
      have other := (Calculator.isCommand_eq_false_iff line.trim).mp meant
      obtain ⟨data, -⟩ := reply_line limits .json memory meant
      obtain ⟨words, after⟩ := reply_line limits .human memory meant
      rw [data] at json
      rw [words] at human
      refine .report other (Prod.ext rfl after.symm) (Calculator.lists_report limits memory line)
        ?_ ?_ ?_
      · rw [json]
        exact Json.read?_output _
      · rw [json]
        exact List.getLast?_concat
      · rw [human]
        exact Calculator.told_report limits memory line

theorem reply_memory (line : Text) :
    (reply limits .json memory line).memory = (reply limits .human memory line).memory := by
  cases meant : Calculator.isCommand line.trim with
  | true => rw [reply_command limits .json memory meant, reply_command limits .human memory meant]
  | false =>
      rw [(reply_line limits .json memory meant).2, (reply_line limits .human memory meant).2]

theorem turns_sideBySide (lines : List Text) :
    SideBySide limits memory (lines.takeWhile fun line => line.trim ≠ "/exit".toList)
      (turns ⟨limits, true⟩ .human memory lines) (turns ⟨limits, true⟩ .json memory lines) := by
  induction lines generalizing memory with
  | nil => exact .done memory
  | cons line rest ih =>
      by_cases exit : line.trim = "/exit".toList
      · rw [turns_leaves limits .human memory exit, turns_leaves limits .json memory exit]
        simpa [exit] using SideBySide.done memory
      · have human := (turn_judged limits .human memory line).2.1
        have json := (turn_judged limits .json memory line).2.1
        rw [turns_stays limits .human memory exit, turns_stays limits .json memory exit,
          reply_memory limits memory line]
        simp only [ne_eq, exit, not_false_eq_true, decide_true, List.takeWhile_cons_of_pos]
        refine .next ?_ ?_ ?_
        · rw [human]
          exact reply_answers limits memory exit
        · rw [human, json, reply_memory limits memory line]
        · rw [human]
          exact ih _

end SideBySide

end Dialogue

namespace CommandLine

def dialogueArguments : Format → List Text
  | .human => []
  | .json => ["--format=json".toList]

def dialogueTurns (settings : Settings) (format : Format) (input : Text) : List Turn :=
  Dialogue.turns ⟨settings.limits, true⟩ format Table.empty input.lines

section Converse

variable (limits : Limits) (request : Request) (setup : JournalSetup) (input : Text)

/-- A dialogue in which exponents are judged runs to its last words. -/
theorem converse_judged :
    converse ⟨limits, true⟩ request setup input =
      finish setup 0
        ((Dialogue.turns ⟨limits, true⟩ request.shownFormat Table.empty input.lines).flatMap
          Turn.output ++ "Bye!\n".toList)
        (Dialogue.events request.formatTold
          (Dialogue.turns ⟨limits, true⟩ request.shownFormat Table.empty input.lines)) := by
  simp only [converse, Dialogue.output, Dialogue.breakdown_turns, Option.isSome_none,
    Bool.false_eq_true, ↓reduceIte]
  rfl

theorem converse_heard {other : Text} (same : Dialogue.heard input = Dialogue.heard other) :
    converse ⟨limits, true⟩ request setup input = converse ⟨limits, true⟩ request setup other := by
  unfold Dialogue.heard at same
  rw [converse_judged, converse_judged, Dialogue.turns_takeWhile, same,
    ← Dialogue.turns_takeWhile]

end Converse

variable (settings : Settings)

theorem run_dialogueArguments (format : Format) : ∃ request setup,
    request.shownFormat = format ∧ ∀ input, run settings (dialogueArguments format) input =
      converse ⟨settings.limits, true⟩ request setup input := by
  cases format with
  | human =>
      refine ⟨{}, setupOf settings {}, rfl, fun input => ?_⟩
      have taken : Clause.takeAll {} [] = .ok {} := rfl
      have spelled : ([] : List Clause).map Clause.argument = dialogueArguments .human := rfl
      rw [← spelled, run_taken settings taken, takeUp_dialogue settings rfl rfl rfl]
      rfl
  | json =>
      refine ⟨{ format := .said .json }, setupOf settings { format := .said .json }, rfl,
        fun input => ?_⟩
      have taken : Clause.takeAll {} [.format "json".toList] = .ok { format := .said .json } := by
        decide
      have spelled :
          [Clause.format "json".toList].map Clause.argument = dialogueArguments .json := by
        decide
      rw [← spelled, run_taken settings taken, takeUp_dialogue settings rfl rfl rfl]
      rfl

/-- A dialogue hears the lines before the word for leaving with one calculator that starts empty,
answers them side by side in both formats, and says farewell. -/
theorem run_dialogue (input : Text) :
    (∀ format, (run settings (dialogueArguments format) input).exit = 0 ∧
      (run settings (dialogueArguments format) input).output =
        (dialogueTurns settings format input).flatMap Turn.output ++ "Bye!\n".toList) ∧
    Dialogue.SideBySide settings.limits Table.empty (Dialogue.heard input)
      (dialogueTurns settings .human input) (dialogueTurns settings .json input) ∧
    ((∀ c ∈ input.getLast?, Text.lineEnd c = true) →
      (∃ line ∈ input.lines, line.trim = "/exit".toList) →
        ∀ format later, run settings (dialogueArguments format) (input ++ later) =
          run settings (dialogueArguments format) input) := by
  refine ⟨?_, Dialogue.turns_sideBySide settings.limits Table.empty input.lines, ?_⟩
  · intro format
    obtain ⟨request, setup, rfl, converses⟩ := run_dialogueArguments settings format
    rw [converses, converse_judged]
    exact ⟨rfl, rfl⟩
  · intro ended left format later
    obtain ⟨request, setup, -, converses⟩ := run_dialogueArguments settings format
    rw [converses, converses]
    exact converse_heard settings.limits request setup _
      (Dialogue.heard_append ended left later)

/-- An assignment, a result and a fault, as programs are shown them. A line feed behind the carriage
return that ends the last line belongs to what is not heard. -/
theorem run_dialogue_left :
    let settings : Settings := ⟨{}, "DEBUG".toList, none⟩
    let input : Text := "x=2\nx^3\ny\n /exit\t\r".toList
    let shown : List Text :=
      ["\x7b\n  \"ok\": true\n\x7d\n".toList,
       "\x7b\n  \"ok\": true,\n  \"result\": \"8\"\n\x7d\n".toList,
       ("\x7b\n  \"ok\": false,\n  \"error\": \"Unknown variable\",\n" ++
        "  \"error_code\": \"UNKNOWN_VARIABLE\"\n\x7d\n").toList]
    ((∀ c ∈ input.getLast?, Text.lineEnd c = true) ∧
      (∃ line ∈ input.lines, line.trim = "/exit".toList) ∧
      run settings (dialogueArguments .json) (input ++ "\nx\n".toList) =
        run settings (dialogueArguments .json) input) ∧
    (run settings (dialogueArguments .json) input).output = shown.flatten ++ "Bye!\n".toList ∧
    shown.map Json.read? =
      [some ⟨[("ok".toList, .flag true)]⟩,
       some ⟨[("ok".toList, .flag true), ("result".toList, .text ['8'])]⟩,
       some ⟨[("ok".toList, .flag false), ("error".toList, .text "Unknown variable".toList),
         ("error_code".toList, .text "UNKNOWN_VARIABLE".toList)]⟩] := by
  intro settings input shown
  have ended : ∀ c ∈ input.getLast?, Text.lineEnd c = true := by
    intro c last
    obtain rfl := Option.mem_some.mp last
    rfl
  have left : ∃ line ∈ input.lines, line.trim = "/exit".toList :=
    ⟨" /exit\t".toList, by decide, by decide⟩
  obtain ⟨ends, -, unheard⟩ := run_dialogue settings input
  have turns : (dialogueTurns settings .json input).flatMap Turn.output = shown.flatten := by
    decide +kernel
  refine ⟨⟨ended, left, unheard ended left .json "\nx\n".toList⟩, ?_, by decide⟩
  rw [(ends .json).2, turns]

end CommandLine

end Reckoner
