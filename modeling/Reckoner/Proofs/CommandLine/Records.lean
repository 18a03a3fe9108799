import Reckoner.Proofs.CommandLine.Keeping
import Reckoner.Proofs.CommandLine.Reply

set_option autoImplicit false

/-!
Records of a run: what it tells, and the lines that its journal makes of that. Each record makes one
legible line, whatever users wrote, so that the lines of a journal can be counted on.
-/
namespace Reckoner

/-- The texts that a request has worked out are of at most the given length. -/
structure Request.Short (request : Request) (input : Text) (length : Nat) : Prop where
  input : input.length ≤ length
  evaluate : ∀ text, request.evaluate = .said text → text.length ≤ length
  checks : ∀ check ∈ HealthCheck.checks, check.line.length ≤ length

theorem Request.exists_short (request : Request) (input : Text) :
    ∃ length, request.Short input length := by
  have checks : ∀ check ∈ HealthCheck.checks, check.line.length ≤ 11 := by decide
  refine ⟨input.length + (request.evaluate.value?.getD []).length + 11, by omega, ?_, ?_⟩
  · intro text asked
    have given : (request.evaluate.value?.getD []).length = text.length := by rw [asked]; rfl
    omega
  · intro check member
    have size := checks check member
    omega

namespace Bounds

theorem contained_told (bounds : Bounds) {event : Event} (contained : event.Contained) :
    (bounds.told event).Contained := by
  cases event with
  | exponentRefused limit => trivial
  | _ => exact contained

theorem told_judged {bounds : Bounds} (judged : bounds.exponentsJudged = true) (event : Event) :
    bounds.told event = event := by
  cases event with
  | exponentRefused limit => simp only [told, judged, ↓reduceIte]
  | _ => rfl

end Bounds

/-- What a run may tell under the bounds, if the texts that it has worked out are of at most the
given length: that a dialogue starts, or what can be told of such a text. -/
inductive Recorded (bounds : Bounds) (length : Nat) : Event → Prop where
  | started (request : Request) : Recorded bounds length (.dialogueStarted request.formatTold)
  | plain {memory : Variables} {text : Text} {event : Event}
      (within : memory.Within (4 * length)) (short : text.length ≤ length)
      (tells : Calculator.Tells bounds.limits memory text event) : Recorded bounds length event
  | told {memory : Variables} {text : Text} {event : Event}
      (within : memory.Within (4 * length)) (short : text.length ≤ length)
      (tells : Calculator.Tells bounds.limits memory text event) :
      Recorded bounds length (bounds.told event)

namespace Recorded

variable {bounds : Bounds} {length : Nat} {event : Event}

theorem contained (recorded : Recorded bounds length event) : event.Contained := by
  cases recorded with
  | started request =>
      have word : request.formatTold.Legible := by
        unfold Request.formatTold
        split
        · decide
        · cases request.shownFormat <;> decide
      exact word
  | plain within short tells => exact tells.contained
  | told within short tells => exact bounds.contained_told tells.contained

theorem tellable (recorded : Recorded bounds length event)
    (judged : bounds.exponentsJudged = true) (ample : bounds.limits.Ample length) :
    event.Tellable := by
  cases recorded with
  | started request => exact ⟨nofun, nofun⟩
  | plain within short tells => exact tells.tellable within short ample
  | told within short tells =>
      rw [Bounds.told_judged judged]
      exact tells.tellable within short ample

end Recorded

namespace Dialogue

variable {bounds : Bounds} {format : Format} {memory : Variables} {length : Nat}

section Turn

variable {line : Text} (within : memory.Within (4 * length)) (short : line.length ≤ length)

include within short

/-- A line leaves variables that are no larger than the lines so far let them be. -/
theorem reply_variables : (reply bounds.limits format memory line).memory.Within (4 * length) := by
  cases meant : Calculator.isCommand line.trim with
  | true =>
      rw [reply_command bounds.limits format memory meant]
      exact within
  | false =>
      have trimmed := Text.length_trim_le line
      rw [(reply_line bounds.limits format memory meant).2, Calculator.report]
      cases done : Calculator.calculate bounds.limits memory line.trim with
      | error fault => exact within
      | ok result => exact Calculator.calculate_variables within (by omega) done

theorem turn_variables : (turn bounds format memory line).memory.Within (4 * length) := by
  unfold turn
  split
  · exact within
  · exact reply_variables within short

theorem recorded_turn {event : Event} (told : event ∈ (turn bounds format memory line).events) :
    Recorded bounds length event := by
  have trimmed := Text.length_trim_le line
  unfold turn at told
  split at told
  · exact .plain within (by omega) (Calculator.tells_reading _ memory told)
  · obtain ⟨plain, member, rfl⟩ := List.mem_map.mp told
    have size : line.trim.length ≤ length := by omega
    refine .told within size ?_
    unfold reply at member
    split at member
    · exact Calculator.tells_report member
    · exact Calculator.tells_command member

end Turn

theorem recorded_turns (within : memory.Within (4 * length)) {lines : List Text}
    (short : ∀ line ∈ lines, line.length ≤ length) :
    ∀ turn ∈ turns bounds format memory lines, ∀ event ∈ turn.events,
      Recorded bounds length event := by
  induction lines generalizing memory with
  | nil => exact List.forall_mem_nil _
  | cons line rest ih =>
      rw [List.forall_mem_cons] at short
      unfold turns
      split
      · exact List.forall_mem_nil _
      · have first : ∀ event ∈ (turn bounds format memory line).events,
            Recorded bounds length event := fun _ told => recorded_turn within short.1 told
        dsimp only
        split
        · exact List.forall_mem_singleton.mpr first
        · exact List.forall_mem_cons.mpr ⟨first, ih (turn_variables within short.1) short.2⟩

end Dialogue

namespace CommandLine

section Recorded

variable (settings : Settings) {request : Request} {input : Text} {length : Nat}
  (short : request.Short input length)

include short

/-- Whatever a request has told of, it is the start of a dialogue or a text that was worked out. -/
theorem recorded_requestEvents : ∀ event ∈ requestEvents settings request input,
    Recorded (boundsOf settings.limits request.maxExponent) length event := by
  have none := Variables.within_empty (4 * length)
  unfold requestEvents
  dsimp only
  split
  · exact List.forall_mem_nil _
  split
  · intro event told
    obtain ⟨check, listed, told⟩ := List.mem_flatMap.mp told
    have trimmed := Text.length_trim_le check.line
    have size := short.checks check listed
    split at told
    · exact .plain none (by omega) (Calculator.tells_reading _ Table.empty told)
    · exact .plain none (by omega) (Calculator.tells_line told)
  split
  · next text asked =>
      intro event told
      have trimmed := Text.length_trim_le text
      have again := Text.length_trim_le text.trim
      have size := short.evaluate text asked
      unfold onceEvents at told
      split at told
      · cases told
      split at told
      · exact .plain none (by omega) (Calculator.tells_reading _ Table.empty told)
      · obtain ⟨plain, member, rfl⟩ := List.mem_map.mp told
        exact .told none (by omega) (Calculator.tells_report member)
  · exact List.forall_mem_nil _
  · refine List.forall_mem_cons.mpr ⟨.started request, fun event told => ?_⟩
    obtain ⟨turn, held, told⟩ := List.mem_flatMap.mp told
    have lines : ∀ line ∈ input.lines, line.length ≤ length := fun line member =>
      Nat.le_trans (Text.length_le_of_mem_lines line member) short.input
    exact Dialogue.recorded_turns none lines turn held event told

end Recorded

section Run

variable (settings : Settings) (arguments : List Text) (input : Text)
  (denied : Text → Option Text)

/-- What the journal of a run takes in is told while a request is taken up. -/
theorem mem_journal_run {event : Event}
    (told : event ∈ (run settings arguments input denied).journal) :
    ∃ request, Request.parse arguments = .ok (.request request) ∧
      event ∈ requestEvents settings request input := by
  rw [run, launch] at told
  split at told
  · cases told
  unfold start at told
  cases asked : Request.parse arguments with
  | error fault =>
      rw [asked] at told
      cases told
  | ok invocation =>
      rw [asked] at told
      cases invocation with
      | help =>
          have silent : (help settings).journal = [] := by
            unfold help
            cases Usage.help settings <;> rfl
          rw [conclude, silent] at told
          cases told
      | request request =>
          rw [journal_takeUp] at told
          exact ⟨request, rfl, (mem_journalled _ told).2⟩

theorem contained_journal : ∀ event ∈ (run settings arguments input denied).journal,
    event.Contained := by
  intro event told
  obtain ⟨request, -, told⟩ := mem_journal_run settings arguments input denied told
  obtain ⟨length, short⟩ := request.exists_short input
  exact (recorded_requestEvents settings short event told).contained

/-- No record is lost under ample limits by which exponents are judged. -/
theorem tellable_journal {request : Request} {length : Nat}
    (asked : Request.parse arguments = .ok (.request request))
    (judged : request.maxExponent ≠ .withdrawn)
    (ample : (boundsOf settings.limits request.maxExponent).limits.Ample length)
    (short : request.Short input length) :
    ∀ event ∈ (run settings arguments input denied).journal, event.Tellable := by
  have judges : (boundsOf settings.limits request.maxExponent).exponentsJudged = true := by
    cases chosen : request.maxExponent with
    | withdrawn => exact absurd chosen judged
    | _ => rfl
  intro event told
  obtain ⟨other, parsed, told⟩ := mem_journal_run settings arguments input denied told
  rw [asked] at parsed
  cases parsed
  exact (recorded_requestEvents settings short event told).tellable judges ample

/-- The file has a line for each record that can be told of. -/
theorem lines_journalAt {path : Text} {traces : Traces} {lines : List (Option Text)}
    (filed : (run settings arguments input denied).journalFile = some path)
    (written : List.Forall₂ Event.WrittenAs (run settings arguments input denied).journal lines) :
    ((run settings arguments input denied).journalAt traces (.file path) lines).lines =
      lines.reduceOption := by
  have listed : .file path ∈ Place.ofFile (run settings arguments input denied).journalFile := by
    rw [filed]
    exact List.mem_cons_of_mem _ List.mem_cons_self
  rw [Execution.journalAt, Event.arrivals_deliveries_file _ _ _ listed,
    Event.filterMap_zip written,
    Event.lines_unlines written (contained_journal settings arguments input denied)]

/-- A record that is lost has no entry, and the file is short of a line. -/
theorem lines_journalAt_lost {path : Text}
    (filed : (run settings arguments input denied).journalFile = some path)
    (lost : ∃ event ∈ (run settings arguments input denied).journal, ¬ event.Tellable) :
    (∃ event ∈ (run settings arguments input denied).journal, event.entry = none) ∧
      ∃ lines, List.Forall₂ Event.WrittenAs (run settings arguments input denied).journal lines ∧
        ∀ traces,
          ((run settings arguments input denied).journalAt traces (.file path) lines).lines.length <
            (run settings arguments input denied).journal.length := by
  obtain ⟨event, member, untold⟩ := lost
  have dated : Timestamp.render 0 1 = .ok "1970-01-01T00:00:00.000".toList := by decide +kernel
  have written : List.Forall₂ Event.WrittenAs (run settings arguments input denied).journal
      ((run settings arguments input denied).journal.map fun event =>
        event.entry.map (Entry.stampedLine "1970-01-01T00:00:00.000".toList)) :=
    List.forall₂_map_right_iff.mpr
      (List.forall₂_same.mpr fun event _ => event.writtenAs_stamped dated)
  refine ⟨⟨event, member, ?_⟩, _, written, fun traces => ?_⟩
  · exact Option.not_isSome_iff_eq_none.mp fun made => untold (event.isSome_entry.mp made)
  · rw [lines_journalAt settings arguments input denied filed written,
      Event.length_reduceOption written]
    refine Nat.lt_of_le_of_ne List.countP_le_length fun whole => ?_
    exact untold (of_decide_eq_true (List.countP_eq_length.mp whole event member))

end Run

/-- What users write forges no lines of the journal. Whatever the arguments and the input, and
whenever it is written, an entry makes one line, in which everything prints. A record has an entry
unless it names a number with too many digits, or a limit that was taken back, and the file of the
journal has one line for each record with an entry, and no others. Under ample limits all records
have one, and each place has one line for each record. -/
theorem run_records (settings : Settings) (arguments : List Text) (input : Text)
    (denied : Text → Option Text) :
    let execution := run settings arguments input denied
    (∀ event ∈ execution.journal, event.entry.isSome = true ↔ event.Tellable) ∧
    (∀ event ∈ execution.journal, ∀ entry ∈ event.entry, ∀ milliseconds parts stamp,
      Timestamp.render milliseconds parts = .ok stamp →
        ∃ line, ({ Remark.ofEntry milliseconds entry with parts } : Remark).line = .ok line ∧
          line.Legible ∧ line.lines = [line]) ∧
    ∀ traces lines, List.Forall₂ Event.WrittenAs execution.journal lines →
      (∀ path, execution.journalFile = some path →
        (execution.journalAt traces (.file path) lines).lines = lines.reduceOption ∧
        (execution.journalAt traces (.file path) lines).lines.length =
          execution.journal.countP fun event => event.Tellable) ∧
      ∀ request length, Request.parse arguments = .ok (.request request) →
        request.maxExponent ≠ .withdrawn →
          (boundsOf settings.limits request.maxExponent).limits.Ample length →
            request.Short input length → ∀ place ∈ Place.ofFile execution.journalFile,
              (execution.journalAt traces place lines).lines.length =
                execution.journal.length := by
  intro execution
  have contained := contained_journal settings arguments input denied
  refine ⟨fun event _ => event.isSome_entry, ?_, ?_⟩
  · intro event told entry made milliseconds parts stamp dated
    have written : entry.WrittenAs (entry.stampedLine stamp) :=
      ⟨milliseconds, parts, entry.line_ofEntry dated⟩
    have clear := (contained event told).entry made
    exact ⟨entry.stampedLine stamp, entry.line_ofEntry dated, clear.written written,
      clear.lines written⟩
  · intro traces lines written
    have whole := Event.lines_unlines written contained
    have counted := Event.length_reduceOption written
    refine ⟨fun path filed => ?_, fun request length asked judged ample short place listed => ?_⟩
    · have same : (execution.journalAt traces (.file path) lines).lines = lines.reduceOption :=
        lines_journalAt settings arguments input denied filed written
      exact ⟨same, same ▸ counted⟩
    · have tellable := tellable_journal settings arguments input denied asked judged ample short
      have present : ∀ pair ∈ execution.journal.zip lines, pair.2.isSome = true :=
        Event.isSome_of_zip written tellable
      rw [Execution.journalAt, Event.arrivals_deliveries_whole _ _ listed present,
        Event.filterMap_zip written, whole, counted, List.countP_eq_length]
      exact fun event member => decide_eq_true (tellable event member)

/-- An expression in which a line of the journal seems to begin behind a line feed. -/
theorem run_records_lineFeed :
    let settings : Settings := ⟨{}, "WARNING".toList, none⟩
    let clauses : List Clause :=
      [.logLevel "DEBUG".toList, .logFile "calc.log".toList, .evaluate "2\n[DEBUG] ".toList]
    let request : Request :=
      { logLevel := .said "DEBUG".toList, logFile := .said "calc.log".toList,
        evaluate := .said "2\n[DEBUG] ".toList }
    let arguments := clauses.map Clause.argument
    let execution := run settings arguments []
    let stamp : Text := "1970-01-01T00:00:00.000".toList
    let lines : List Text :=
      [stamp ++ (" [DEBUG] intcalc.lexer: Tokens for '2\\n[DEBUG]': " ++
        "[Token('2', INTEGER), Token('DEBUG', VARIABLE)]").toList,
       stamp ++ (" [DEBUG] intcalc.parser: Postfix: " ++
        "[Token('2', INTEGER), Token('DEBUG', VARIABLE)]").toList,
       stamp ++ " [DEBUG] intcalc.evaluator: Ignoring 1 leftover operand(s)".toList,
       stamp ++ (" [DEBUG] intcalc.api: Evaluation of '2\\n[DEBUG]' failed: " ++
        "Unknown variable (UNKNOWN_VARIABLE)").toList]
    (Timestamp.render 0 1 = .ok stamp ∧
      List.Forall₂ Event.WrittenAs execution.journal (lines.map some) ∧
      execution.journalFile = some "calc.log".toList ∧
      Request.parse arguments = .ok (.request request) ∧ request.maxExponent ≠ .withdrawn ∧
      (boundsOf settings.limits request.maxExponent).limits.Ample 20 ∧ request.Short [] 20) ∧
    (∀ line ∈ lines, line.Legible ∧ line.lines = [line]) ∧
    ∀ traces,
      (execution.journalAt traces (.file "calc.log".toList) (lines.map some)).lines = lines ∧
      (execution.journalAt traces (.file "calc.log".toList) (lines.map some)).lines.length =
        execution.journal.length := by
  intro settings clauses request arguments execution stamp lines
  have taken : Clause.takeAll {} clauses = .ok request := by rfl
  have asked : Request.parse arguments = .ok (.request request) := by
    rw [Clause.parse_clauses, taken]
    rfl
  have file : execution.journalFile = some "calc.log".toList := by
    rw [show execution = _ from run_taken settings taken []]
    exact (JournalSetup.kept_takeUp settings request []).file
  have told : execution.journal =
      [.scanned "2\n[DEBUG]".toList [⟨"2".toList, .numeral⟩, ⟨"DEBUG".toList, .name⟩],
       .reordered [⟨"2".toList, .numeral⟩, ⟨"DEBUG".toList, .name⟩], .operandsIgnored 1,
       .evaluationFailed "2\n[DEBUG]".toList (.unknownVariable "DEBUG".toList)] := by
    rw [show execution = _ from run_taken settings taken [], journal_takeUp]
    rfl
  have dated : Timestamp.render 0 1 = .ok stamp := by decide +kernel
  have stamped : execution.journal.map (fun event =>
      event.entry.map (Entry.stampedLine stamp)) = lines.map some := by
    rw [told]
    decide +kernel
  have written : List.Forall₂ Event.WrittenAs execution.journal (lines.map some) := by
    rw [← stamped]
    exact List.forall₂_map_right_iff.mpr
      (List.forall₂_same.mpr fun event _ => event.writtenAs_stamped dated)
  have judged : request.maxExponent ≠ .withdrawn := nofun
  have large : 10 ^ 20 ≤ 10 ^ Numeral.maxDigits :=
    Nat.pow_le_pow_right (by decide) (by decide)
  have ample : (boundsOf settings.limits request.maxExponent).limits.Ample 20 :=
    ⟨Nat.lt_of_lt_of_le (by decide) large, Nat.lt_of_lt_of_le (by decide) large,
      Nat.lt_of_lt_of_le (by decide) large,
      Int.lt_of_lt_of_le (by decide) (Int.ofNat_le.mpr large)⟩
  have short : request.Short [] 20 := by
    refine ⟨by decide, ?_, by decide⟩
    intro text same
    obtain rfl := Choice.said.inj same
    decide
  obtain ⟨-, renders, fills⟩ := run_records settings arguments [] fun _ => none
  refine ⟨⟨dated, written, file, asked, judged, ample, short⟩, ?_, fun traces => ?_⟩
  · intro line member
    have listed : some line ∈ lines.map some := List.mem_map_of_mem member
    rw [← stamped] at listed
    obtain ⟨event, told, shown⟩ := List.mem_map.mp listed
    obtain ⟨entry, made, rfl⟩ := Option.map_eq_some_iff.mp shown
    obtain ⟨line, rendered, legible, single⟩ := renders event told entry made 0 1 stamp dated
    rw [entry.line_ofEntry dated] at rendered
    obtain rfl := Except.ok.inj rendered
    exact ⟨legible, single⟩
  · obtain ⟨filled, counted⟩ := fills traces _ written
    refine ⟨?_, counted request 20 asked judged ample short _ ?_⟩
    · rw [(filled _ file).1]
      rfl
    · rw [file]
      exact List.mem_cons_of_mem _ List.mem_cons_self

/-- A record that is lost leaves no line in the file: one of a power whose estimate has too many
digits, or one that would name a largest exponent that was taken back. -/
theorem run_records_lost :
    (∃ execution, execution = run ⟨{}, "WARNING".toList, none⟩
        ((clausesOfPower longestNumeral).map Clause.argument) [] ∧
      execution.failure = none ∧ (∃ event ∈ execution.journal, event.entry = none) ∧
      ∃ lines, List.Forall₂ Event.WrittenAs execution.journal lines ∧ ∀ traces,
        (execution.journalAt traces (.file "calc.log".toList) lines).lines.length <
          execution.journal.length) ∧
    ∃ execution, execution = run ⟨{}, "WARNING".toList, none⟩
        (clausesOfWithdrawal.map Clause.argument) "2^(0-1)\n2^1\n".toList ∧
      (∃ event ∈ execution.journal, event.entry = none) ∧
      ∃ lines, List.Forall₂ Event.WrittenAs execution.journal lines ∧ ∀ traces,
        (execution.journalAt traces (.file "calc.log".toList) lines).lines.length <
          execution.journal.length := by
  obtain ⟨-, filed, lasts, lost⟩ := run_longestNumeral_lost
  obtain ⟨-, kept, missing⟩ := run_withdrawal_lost
  exact ⟨⟨_, rfl, lasts, lines_journalAt_lost _ _ _ _ filed lost⟩, _, rfl,
    lines_journalAt_lost _ _ _ _ kept missing⟩

end CommandLine

end Reckoner
