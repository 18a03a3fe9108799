import Reckoner.Proofs.CommandLine.Clause
import Reckoner.Proofs.Journal.Loss
import Reckoner.Proofs.Journal.Magnitude

set_option autoImplicit false

/-!
What a run tells and how it keeps that. A request settles the file of the journal, which is opened
before anything else is done, and the events that go there. An event with too long a number in it is
lost on the way.
-/
namespace Reckoner

namespace CommandLine

/-- What is told while one text is worked out by itself. -/
def onceEvents (bounds : Bounds) (text : Text) : List Event :=
  if Calculator.isCommand text then []
  else if bounds.breaks Table.empty text then Calculator.readingEvents text
  else (Calculator.reportEvents bounds.limits Table.empty text).map bounds.told

/-- What is told while a request is taken up, and a dialogue is held if it asks for one. -/
def requestEvents (settings : Settings) (request : Request) (input : Text) : List Event :=
  let bounds := boundsOf settings.limits request.maxExponent
  if request.version then []
  else if request.healthCheck then HealthCheck.events bounds
  else
    match request.evaluate with
    | .said text => onceEvents bounds text.trim
    | .withdrawn => []
    | .unsaid =>
        Dialogue.events request.formatTold
          (Dialogue.turns bounds request.shownFormat Table.empty input.lines)

section Journal

variable (bounds : Bounds) (setup : JournalSetup)

theorem journal_evaluateOnce (format : Format) (text : Text) :
    (evaluateOnce bounds format setup text).journal =
      journalled setup (onceEvents bounds text) := by
  unfold evaluateOnce onceEvents
  split
  · rfl
  split
  · rfl
  · rfl

theorem journal_converse (request : Request) (input : Text) :
    (converse bounds request setup input).journal =
      journalled setup (Dialogue.events request.formatTold
        (Dialogue.turns bounds request.shownFormat Table.empty input.lines)) := by
  simp only [converse]
  split
  · rfl
  · rfl

/-- The journal of what comes of a request is what is told, if it starts low enough. -/
theorem journal_takeUp (settings : Settings) (request : Request) (input : Text) :
    (conclude input (takeUp settings request)).journal =
      journalled (setupOf settings request) (requestEvents settings request input) := by
  unfold takeUp requestEvents
  cases request.version with
  | true => rfl
  | false =>
      cases request.healthCheck with
      | true => rfl
      | false =>
          cases request.evaluate with
          | said text => exact journal_evaluateOnce _ _ _ _
          | withdrawn => rfl
          | unsaid => exact journal_converse _ _ _ _

theorem mem_journalled {event : Event} {events : List Event}
    (member : event ∈ journalled setup events) :
    setup.writesEvents = true ∧ event ∈ events := by
  unfold journalled at member
  split at member
  · next writes => exact ⟨writes, member⟩
  · cases member

end Journal

end CommandLine

namespace JournalSetup

/-- The file of the journal is as it was set up, nothing was complained of, and the file could be
opened. -/
structure Kept (setup : JournalSetup) (execution : Execution) : Prop where
  file : execution.journalFile = setup.file
  complaint : execution.complaint = []
  opened : execution.unopened = none

theorem kept_finish (setup : JournalSetup) (exit : Nat) (output : Text) (events : List Event) :
    setup.Kept (CommandLine.finish setup exit output events) :=
  ⟨rfl, rfl, rfl⟩

theorem kept_breakOff (setup : JournalSetup) (output : Text) (events : List Event)
    (breakdown : Breakdown) :
    setup.Kept (CommandLine.breakOff setup output events breakdown) :=
  ⟨rfl, rfl, rfl⟩

theorem kept_evaluateOnce (setup : JournalSetup) (bounds : Bounds) (format : Format)
    (text : Text) : setup.Kept (CommandLine.evaluateOnce bounds format setup text) := by
  unfold CommandLine.evaluateOnce
  split
  · exact kept_finish _ _ _ _
  split
  · exact kept_breakOff _ _ _ _
  · exact kept_finish _ _ _ _

theorem kept_converse (setup : JournalSetup) (bounds : Bounds) (request : Request)
    (input : Text) : setup.Kept (CommandLine.converse bounds request setup input) := by
  simp only [CommandLine.converse]
  split
  · exact kept_breakOff _ _ _ _
  · exact kept_finish _ _ _ _

theorem kept_takeUp (settings : Settings) (request : Request) (input : Text) :
    (CommandLine.setupOf settings request).Kept
      (CommandLine.conclude input (CommandLine.takeUp settings request)) := by
  unfold CommandLine.takeUp
  cases request.version with
  | true => exact kept_finish _ _ _ _
  | false =>
      cases request.healthCheck with
      | true => exact kept_finish _ _ _ _
      | false =>
          cases request.evaluate with
          | said text => exact kept_evaluateOnce _ _ _ _
          | withdrawn => exact kept_breakOff _ _ _ _
          | unsaid => exact kept_converse _ _ _ _

end JournalSetup

namespace CommandLine

theorem journalFile_conclude (input : Text) (start : Start) :
    (conclude input start).journalFile = start.journalFile := by
  cases start with
  | finished execution => rfl
  | dialogue bounds request setup => exact (setup.kept_converse bounds request input).file

theorem journalFile_takeUp (settings : Settings) (request : Request) :
    (takeUp settings request).journalFile = (setupOf settings request).file := by
  rw [← journalFile_conclude []]
  exact (JournalSetup.kept_takeUp settings request []).file

section Launch

variable (settings : Settings) {clauses : List Clause} {request : Request}
  {denied : Text → Option Text} (taken : Clause.takeAll {} clauses = .ok request) (input : Text)

include taken

theorem run_opened (opens : ∀ path, (setupOf settings request).file = some path →
      denied path = none) :
    run settings (clauses.map Clause.argument) input denied =
      conclude input (takeUp settings request) := by
  rw [run, start_clauses settings taken, launch_allowed]
  rwa [journalFile_takeUp]

/-- Where it cannot be opened, nothing is put out and nothing is evaluated. -/
theorem run_denied {path reason : Text} (filed : (setupOf settings request).file = some path)
    (refused : denied path = some reason) :
    run settings (clauses.map Clause.argument) input denied =
      { exit := 1, output := [], unopened := some reason } := by
  rw [run, start_clauses settings taken, launch, journalFile_takeUp, filed, Option.bind_some,
    refused]
  rfl

end Launch

end CommandLine

namespace Execution

section Received

variable {execution : Execution} {path : Text} (filed : execution.journalFile = some path)
  (traces : Traces)

include filed

theorem sideBySide_received :
    Event.SideBySide execution.journal (execution.received traces (.file path))
      (execution.received traces .standardError) := by
  rw [received, received, journalAt, journalAt, filed]
  exact Event.sideBySide_deliveries path traces.records execution.journal

/-- A run that loses an event says so on standard error alone. -/
theorem count_received_lt (lost : ∃ event ∈ execution.journal, ¬ event.Tellable) :
    (execution.received traces (.file path)).count '\n' <
      (execution.received traces .standardError).count '\n' :=
  (sideBySide_received filed traces).count_lt lost

end Received

end Execution

namespace CommandLine

theorem writesEvents_of_received (settings : Settings) (request : Request) (input : Text)
    {traces : Traces} {place : Place}
    (received : (conclude input (takeUp settings request)).received traces place ≠ []) :
    (setupOf settings request).writesEvents = true := by
  by_contra silent
  refine received ?_
  rw [Execution.received, Execution.journalAt, journal_takeUp, journalled, if_neg silent]
  rfl

section Loss

theorem readCount_digits {digits : Text} (numeral : Category.numeral.Admits digits)
    (short : digits.length ≤ Numeral.maxDigits) :
    readCount digits = .ok (Decimal.value digits) := by
  have literal : Text.Signed Text.digit digits := ⟨[], digits, .inl rfl, numeral.1, numeral.2, rfl⟩
  have positive : ¬ (Decimal.value digits : Int) < 0 := by omega
  have same : literalValue digits = Decimal.value digits :=
    literalValue_append [] digits (.inl rfl) numeral.2
  simp only [readCount, Numeral.readShort_literal literal short, same, positive, ↓reduceIte]

/-- The largest exponent is chosen, and two is raised to it, so that the estimate of the power has
one digit more. -/
def clausesOfPower (digits : Text) : List Clause :=
  [.logLevel "DEBUG".toList, .logFile "calc.log".toList, .maxExponent digits,
    .evaluate ("2^".toList ++ digits)]

/-- Where exponents are judged, no expression breaks a run. -/
theorem failure_evaluateOnce {bounds : Bounds} (judged : bounds.exponentsJudged = true)
    (format : Format) (setup : JournalSetup) (text : Text) :
    (evaluateOnce bounds format setup text).failure = none := by
  have lasts : bounds.breaks Table.empty text = false := by simp [Bounds.breaks, judged]
  simp only [evaluateOnce, lasts, Bool.false_eq_true, ↓reduceIte]
  split
  · rfl
  · rfl

section Power

theorem power_ne_divider (digits : Text) : "2^".toList ++ digits ≠ Argument.divider := by
  intro same
  cases (List.cons.inj same).1

variable {digits : Text} (numeral : Category.numeral.Admits digits)
  (short : digits.length ≤ Numeral.maxDigits)

include numeral short

theorem takeAll_clausesOfPower : Clause.takeAll {} (clausesOfPower digits) = .ok
    { logLevel := .said "DEBUG".toList, logFile := .said "calc.log".toList,
      maxExponent := .said (Decimal.value digits : Int),
      evaluate := .said ("2^".toList ++ digits) } := by
  have kept := power_ne_divider digits
  have level (request : Request) : Clause.take request (.logLevel "DEBUG".toList) =
      .ok { request with logLevel := .said "DEBUG".toList } := rfl
  have file (request : Request) : Clause.take request (.logFile "calc.log".toList) =
      .ok { request with logFile := .said "calc.log".toList } := rfl
  simp only [clausesOfPower, Clause.takeAll, List.foldlM_cons, List.foldlM_nil, level, file,
    Clause.take_maxExponent (readCount_digits numeral short), Clause.take_evaluate kept, ok_bind]
  rfl

omit short in
theorem trim_power : Text.trim ("2^".toList ++ digits) = "2^".toList ++ digits := by
  refine Text.trimBy_eq_self fun c member => ?_
  rcases List.mem_append.mp member with first | later
  · have solid : "2^".toList.all (fun c => Text.blankChar c = false) = true := by decide
    exact of_decide_eq_true (List.all_eq_true.mp solid c first)
  · refine Category.blankChar_eq_false ?_
    rw [Category.ofChar_digit (numeral.2 c later)]
    exact nofun

omit numeral short in
theorem spells_power : Token.Spells
    [⟨['2'], .numeral⟩, ⟨['^'], .operator .power⟩, ⟨digits, .numeral⟩]
    ("2^".toList ++ digits) := by
  have gap : Text.isBlank [] = true := rfl
  have spells : Token.Spells [⟨['2'], .numeral⟩, ⟨['^'], .operator .power⟩, ⟨digits, .numeral⟩]
      ([] ++ ['2'] ++ ([] ++ ['^'] ++ ([] ++ digits ++ []))) :=
    .next gap (.next gap (.next gap (.done gap)))
  simpa using spells

/-- The event of a power that is refused is lost if its estimate has too many digits. -/
theorem run_power_lost (large : 10 ^ Numeral.maxDigits ≤ Decimal.value digits * 2) :
    let execution := run ⟨{}, "WARNING".toList, none⟩
      ((clausesOfPower digits).map Clause.argument) []
    (∀ clause ∈ clausesOfPower digits, clause.Accepted) ∧
      execution.journalFile = some "calc.log".toList ∧ execution.failure = none ∧
      ∃ event ∈ execution.journal, ¬ event.Tellable := by
  intro execution
  let bounds : Bounds := ⟨{ maxExponent := Decimal.value digits }, true⟩
  let setup : JournalSetup := ⟨Level.debug, some "calc.log".toList⟩
  have running : execution = evaluateOnce bounds .human setup ("2^".toList ++ digits) := by
    have taken := run_taken ⟨{}, "WARNING".toList, none⟩ (takeAll_clausesOfPower numeral short) []
    rw [takeUp_evaluate _ rfl rfl rfl, trim_power numeral] at taken
    exact taken
  have told : .powerRefused (Decimal.value digits * 2) 1000000 ∈ execution.journal := by
    have million : 10 ^ 7 ≤ 10 ^ Numeral.maxDigits := Nat.pow_le_pow_right (by decide) (by decide)
    have room : Numeral.maxDigits + 2 ≤ 10000 := by decide
    have two : bitLength (Decimal.value ['2']) = 2 := by decide
    have exceeds : bounds.limits.maxResultBits <
        (Decimal.value digits * bitLength (Decimal.value ['2']) : Nat) := by
      have usual : bounds.limits.maxResultBits = 1000000 := rfl
      rw [two, usual]
      omega
    have inside : (("2^".toList ++ digits).length : Int) ≤ bounds.limits.maxInputLength := by
      have usual : bounds.limits.maxInputLength = 10000 := rfl
      have size : ("2^".toList ++ digits).length = 2 + digits.length := List.length_append
      omega
    have reported : .powerRefused (Decimal.value digits * bitLength (Decimal.value ['2'])) 1000000 ∈
        Calculator.reportEvents bounds.limits Table.empty ("2^".toList ++ digits) :=
      Calculator.reports_power_refused (by decide) numeral (Int.le_refl _) exceeds spells_power
        inside
    rw [two] at reported
    rw [running, journal_evaluateOnce]
    exact List.mem_map_of_mem (f := bounds.told) reported
  refine ⟨?_, ?_, ?_, _, told, fun tellable => ?_⟩
  · have kept := power_ne_divider digits
    simp only [clausesOfPower, List.forall_mem_cons]
    exact ⟨⟨_, rfl⟩, ⟨_, rfl⟩, ⟨_, Clause.take_maxExponent (readCount_digits numeral short) {}⟩,
      ⟨_, Clause.take_evaluate kept {}⟩, nofun⟩
  · rw [running]
    exact (setup.kept_evaluateOnce bounds .human _).file
  · rw [running]
    exact failure_evaluateOnce rfl _ _ _
  · have bound := tellable.2 _ List.mem_cons_self
    rw [Int.natAbs_natCast] at bound
    omega

end Power

/-- The numeral with the most digits that can be chosen as the largest exponent. -/
def longestNumeral : Text := List.replicate Numeral.maxDigits '9'

theorem admits_longestNumeral : Category.numeral.Admits longestNumeral := by
  refine ⟨by decide, fun c member => ?_⟩
  rw [List.eq_of_mem_replicate member]
  decide

theorem run_longestNumeral_lost :
    let execution := run ⟨{}, "WARNING".toList, none⟩
      ((clausesOfPower longestNumeral).map Clause.argument) []
    (∀ clause ∈ clausesOfPower longestNumeral, clause.Accepted) ∧
      execution.journalFile = some "calc.log".toList ∧ execution.failure = none ∧
      ∃ event ∈ execution.journal, ¬ event.Tellable :=
  run_power_lost admits_longestNumeral (Nat.le_of_eq List.length_replicate) (by decide +kernel)

def clausesOfWithdrawal : List Clause :=
  [.logLevel "DEBUG".toList, .logFile "calc.log".toList, .maxExponent "--".toList]

/-- The event of a negative exponent is lost, too, if no limit is left that it could name. -/
theorem run_withdrawal_lost :
    let execution := run ⟨{}, "WARNING".toList, none⟩
      (clausesOfWithdrawal.map Clause.argument) "2^(0-1)\n2^1\n".toList
    (∀ clause ∈ clausesOfWithdrawal, clause.Accepted) ∧
      execution.journalFile = some "calc.log".toList ∧
      ∃ event ∈ execution.journal, ¬ event.Tellable := by
  refine ⟨?_, by decide +kernel, .exponentRefused none, by decide +kernel, fun tellable => ?_⟩
  · simp only [clausesOfWithdrawal, List.forall_mem_cons]
    exact ⟨⟨_, rfl⟩, ⟨_, rfl⟩, ⟨_, rfl⟩, nofun⟩
  · exact tellable.1 rfl

end Loss

end CommandLine

end Reckoner
