import Reckoner.Proofs.CommandLine.Keeping

set_option autoImplicit false

/-!
The journal of a run. How it is kept changes nothing of what the run shows, it is silent above the
level of debugging, and its file takes in the lines that standard error does. Where an event leaves
no line, standard error alone is told so.
-/
namespace Reckoner

/-- The parameters that say how the journal is kept. -/
def Parameter.journals : Parameter → Bool
  | .logLevel => true
  | .logFile => true
  | _ => false

theorem Parameter.takesValue_of_journals {parameter : Parameter}
    (journals : parameter.journals = true) : parameter.takesValue = true := by
  cases parameter <;> first | rfl | cases journals

namespace Level

theorem debug_of_mem : ∀ entry ∈ names, entry.2 ≠ 0 → entry.2 ≤ debug → entry.2 = debug := by
  decide

/-- Of the levels that have a name, debugging is the only one at which events are written. -/
theorem ofWord_eq_debug {word : Text} (set : ofWord word ≠ 0) (low : ofWord word ≤ debug) :
    ofWord word = debug := by
  unfold ofWord at set low ⊢
  cases found : names.lookup (word.map capital) with
  | none =>
      rw [found] at low
      exact absurd low (by decide)
  | some level =>
      rw [found] at set low
      obtain ⟨before, after, whole, -⟩ := List.lookup_eq_some_iff.mp found
      have listed : (word.map capital, level) ∈ names := by
        rw [whole]
        exact List.mem_append_right _ List.mem_cons_self
      exact debug_of_mem _ listed set low

end Level

def Execution.unjournalled (execution : Execution) : Execution :=
  { execution with journal := [], journalFile := none }

namespace CommandLine

section Unjournalled

variable (bounds : Bounds) (setup quiet : JournalSetup)

theorem evaluateOnce_unjournalled (format : Format) (text : Text) :
    (evaluateOnce bounds format quiet text).unjournalled =
      (evaluateOnce bounds format setup text).unjournalled := by
  cases meant : Calculator.isCommand text with
  | true =>
      simp only [evaluateOnce, meant, ↓reduceIte]
      rfl
  | false =>
      simp only [evaluateOnce, meant, Bool.false_eq_true, ↓reduceIte]
      cases bounds.breaks Table.empty text <;> rfl

theorem converse_unjournalled {request plain : Request}
    (same : plain.shownFormat = request.shownFormat) (input : Text) :
    (converse bounds plain quiet input).unjournalled =
      (converse bounds request setup input).unjournalled := by
  simp only [converse, same]
  cases Dialogue.breakdown
    (Dialogue.turns bounds request.shownFormat Table.empty input.lines) <;> rfl

end Unjournalled

variable {settings other : Settings} (request : Request) (input : Text)

/-- How the journal is kept changes nothing else of what comes of a request. -/
theorem takeUp_unjournalled (same : other.limits = settings.limits) :
    (conclude input (takeUp other (request.without Parameter.journals))).unjournalled =
      (conclude input (takeUp settings request)).unjournalled := by
  have versioned : (request.without Parameter.journals).version = request.version := rfl
  have checked : (request.without Parameter.journals).healthCheck = request.healthCheck := rfl
  have asked : (request.without Parameter.journals).evaluate = request.evaluate := rfl
  have format : (request.without Parameter.journals).shownFormat = request.shownFormat := rfl
  have largest : (request.without Parameter.journals).maxExponent = request.maxExponent := rfl
  simp only [takeUp, versioned, checked, asked, format, largest, same]
  cases request.version with
  | true => rfl
  | false =>
      cases request.healthCheck with
      | true => rfl
      | false =>
          cases request.evaluate with
          | said text => exact evaluateOnce_unjournalled _ _ _ _ text.trim
          | withdrawn => rfl
          | unsaid => exact converse_unjournalled _ _ _ format input

end CommandLine

namespace Clause

/-- What a row of clauses says of a parameter: the last value counts, unless it is taken back. -/
def said (parameter : Parameter) (clauses : List Clause) : Option Text :=
  (clauses.filter fun clause => clause.parameter = parameter).getLast?.bind fun clause =>
    clause.value.filter fun value => value ≠ Argument.divider

theorem said_concat (parameter : Parameter) (front : List Clause) (clause : Clause) :
    said parameter (front ++ [clause]) =
      if clause.parameter = parameter then
        clause.value.filter fun value => value ≠ Argument.divider
      else said parameter front := by
  by_cases named : clause.parameter = parameter
  · simp [said, named]
  · simp [said, named]

end Clause

namespace Request

/-- What a request says of the journal. -/
def journalText (request : Request) : Parameter → Option Text
  | .logLevel => request.logLevel.value?
  | .logFile => request.logFile.value?
  | _ => none

variable {request next : Request} {parameter : Parameter} (named : Parameter)

theorem journalText_raise : (request.raise named).journalText parameter =
    request.journalText parameter := by
  cases named <;> rfl

theorem journalText_withdraw : (request.withdraw named).journalText parameter =
    if named = parameter then none else request.journalText parameter := by
  cases named <;> cases parameter <;> rfl

theorem journalText_put (journals : parameter.journals = true) (value : Text) :
    (request.put named value).journalText parameter =
      if named = parameter then some value else request.journalText parameter := by
  cases parameter <;> simp only [Parameter.journals, reduceCtorEq] at journals <;>
    cases named <;> rfl

theorem journalText_assign (journals : parameter.journals = true) {value : Text}
    (taken : request.assign named value = .ok next) :
    next.journalText parameter =
      if named = parameter then
        (some value).filter fun value => value ≠ Argument.divider
      else request.journalText parameter := by
  cases judged named value with
  | refused fault refuses =>
      rw [refuses] at taken
      cases taken
  | withdrawn divider takes =>
      rw [takes] at taken
      cases taken
      rw [journalText_withdraw, divider]
      rfl
  | put kept takes =>
      rw [takes] at taken
      cases taken
      have whole : (some value).filter (fun value => value ≠ Argument.divider) = some value :=
        Option.filter_eq_some_iff.mpr ⟨rfl, decide_eq_true kept⟩
      rw [journalText_put named journals value, whole]
  | counted count largest takes =>
      rw [takes] at taken
      cases taken
      have other : named ≠ parameter := by
        rintro rfl
        rw [largest] at journals
        cases journals
      rw [if_neg other]
      rfl

end Request

namespace Clause

variable {request next : Request} {parameter : Parameter}

theorem journalText_take (journals : parameter.journals = true) {clause : Clause}
    (taken : take request clause = .ok next) :
    next.journalText parameter =
      if clause.parameter = parameter then
        clause.value.filter fun value => value ≠ Argument.divider
      else request.journalText parameter := by
  have fits := clause.fits
  unfold take at taken
  cases given : clause.value with
  | some value =>
      rw [given] at taken
      exact Request.journalText_assign clause.parameter journals taken
  | none =>
      rw [given] at taken fits
      cases taken
      have other : clause.parameter ≠ parameter := by
        rintro rfl
        rw [Parameter.takesValue_of_journals journals] at fits
        cases fits
      rw [if_neg other, Request.journalText_raise]

theorem journalText_takeAll (journals : parameter.journals = true) {clauses : List Clause}
    {asked : Request} (taken : takeAll {} clauses = .ok asked) :
    asked.journalText parameter = said parameter clauses := by
  induction clauses using List.reverseRecOn generalizing asked with
  | nil =>
      cases taken
      cases parameter <;> rfl
  | append_singleton front clause ih =>
      rw [takeAll_append, bind_eq_ok_iff] at taken
      obtain ⟨request, before, taken⟩ := taken
      rw [takeAll_cons, bind_eq_ok_iff] at taken
      obtain ⟨next, last, done⟩ := taken
      cases done
      rw [journalText_take journals last, said_concat, ih before]

end Clause

/-- The variable of the environment for the journal's level sets nothing else. -/
theorem Settings.read_elsewhere {environment other : String → Option Text} {settings : Settings}
    (elsewhere : ∀ name, name ≠ "INTCALC_LOG_LEVEL" → other name = environment name)
    (reads : read environment = .ok settings) :
    ∃ plain, read other = .ok plain ∧ plain.limits = settings.limits ∧
      plain.logFile = settings.logFile := by
  have lengths := elsewhere "INTCALC_MAX_INPUT_LENGTH" (by decide)
  have exponents := elsewhere "INTCALC_MAX_EXPONENT" (by decide)
  have bits := elsewhere "INTCALC_MAX_RESULT_BITS" (by decide)
  have files := elsewhere "INTCALC_LOG_FILE" (by decide)
  simp only [read, limit, bind_eq_ok_iff] at reads
  obtain ⟨length, readLength, exponent, readExponent, bit, readBit, done⟩ := reads
  cases done
  simp only [read, limit, lengths, exponents, bits, files, readLength, readExponent, readBit,
    ok_bind]
  exact ⟨_, rfl, rfl, rfl⟩

theorem JournalSetup.file_cases {settings : Settings} {level file : Option Text} {path : Text}
    (filed : (ofSettings settings level file).file = some path) :
    file = some path ∨ settings.logFile = some path := by
  unfold ofSettings Settings.nonempty at filed
  dsimp only at filed
  split at filed
  · exact .inl filed
  · exact .inr filed

namespace CommandLine

section Received

variable (settings : Settings) (request : Request) (input : Text) (traces : Traces)

theorem level_of_received {place : Place}
    (received : (conclude input (takeUp settings request)).received traces place ≠ []) :
    (setupOf settings request).level = Level.debug := by
  have writes := writesEvents_of_received settings request input received
  simp only [JournalSetup.writesEvents, Bool.and_eq_true, bne_iff_ne, decide_eq_true_eq] at writes
  exact Level.ofWord_eq_debug writes.1 writes.2

/-- Nothing but the journal and the last words of a run stands on standard error. -/
theorem errorText_takeUp : (conclude input (takeUp settings request)).errorText traces =
    (conclude input (takeUp settings request)).received traces .standardError ++
      (conclude input (takeUp settings request)).lastWords traces := by
  rw [Execution.errorText, (JournalSetup.kept_takeUp settings request input).complaint,
    List.nil_append]

theorem errorText_eq_received {path : Text} (filed : (setupOf settings request).file = some path)
    (tellable : ∀ event ∈ (conclude input (takeUp settings request)).journal, event.Tellable)
    (ends : (conclude input (takeUp settings request)).failure = none) :
    (conclude input (takeUp settings request)).errorText traces =
      (conclude input (takeUp settings request)).received traces (.file path) := by
  have kept := (JournalSetup.kept_takeUp settings request input).file.trans filed
  rw [errorText_takeUp, Execution.lastWords, ends,
    (Execution.sideBySide_received kept traces).eq_of_tellable tellable]
  exact List.append_nil _

end Received

/-- How the journal is kept changes neither the output nor the exit code of a run, nor whether it
ends before its time. Nothing is received unless the level is the one of debugging. Standard error
receives the lines that the file does, and between them notices of the events that leave no line;
behind them come the last words of a run that ends before its time. -/
theorem run_unjournalled (environment other : String → Option Text) (settings : Settings)
    (clauses : List Clause) (input : Text) (denied : Text → Option Text)
    (reads : Settings.read environment = .ok settings)
    (elsewhere : ∀ name, name ≠ "INTCALC_LOG_LEVEL" → other name = environment name)
    (accepted : ∀ clause ∈ clauses, clause.Accepted)
    (opens : ∀ path, Clause.said .logFile clauses = some path ∨ settings.logFile = some path →
      denied path = none) :
    let execution := run settings (clauses.map Clause.argument) input denied
    let setup := JournalSetup.ofSettings settings (Clause.said .logLevel clauses)
      (Clause.said .logFile clauses)
    (∃ plain, Settings.read other = .ok plain ∧
      let unkept := run plain ((clauses.filter fun clause =>
        !clause.parameter.journals).map Clause.argument) input denied
      execution.output = unkept.output ∧ execution.exit = unkept.exit ∧
        execution.failure = unkept.failure) ∧
    (∀ traces place, execution.received traces place ≠ [] → setup.level = Level.debug) ∧
    execution.journalFile = setup.file ∧
    ∀ traces,
      execution.errorText traces =
        execution.received traces .standardError ++ execution.lastWords traces ∧
      ∀ path, setup.file = some path →
        Event.SideBySide execution.journal (execution.received traces (.file path))
          (execution.received traces .standardError) ∧
        ((∀ event ∈ execution.journal, event.Tellable) → execution.failure = none →
          execution.errorText traces = execution.received traces (.file path)) := by
  obtain ⟨request, taken⟩ := Clause.takeAll_accepted accepted {}
  have plainly := Clause.takeAll_filter Parameter.journals taken
  rw [Request.without_empty] at plainly
  have level := Clause.journalText_takeAll (show Parameter.journals .logLevel = true from rfl) taken
  have file := Clause.journalText_takeAll (show Parameter.journals .logFile = true from rfl) taken
  have setup : setupOf settings request = .ofSettings settings (Clause.said .logLevel clauses)
      (Clause.said .logFile clauses) := by
    rw [← level, ← file]
    rfl
  have filed : (conclude input (takeUp settings request)).journalFile =
      (setupOf settings request).file := (JournalSetup.kept_takeUp settings request input).file
  have opened : run settings (clauses.map Clause.argument) input denied =
      conclude input (takeUp settings request) :=
    run_opened settings taken input fun path filed =>
      opens path (JournalSetup.file_cases (setup ▸ filed))
  obtain ⟨plain, readsPlain, limits, usual⟩ := Settings.read_elsewhere elsewhere reads
  have unkept : run plain ((clauses.filter fun clause =>
      !clause.parameter.journals).map Clause.argument) input denied =
        conclude input (takeUp plain (request.without Parameter.journals)) :=
    run_opened plain plainly input fun path filed => opens path (.inr (usual ▸ filed))
  have same := takeUp_unjournalled request input limits
  rw [opened, ← setup]
  refine ⟨⟨plain, readsPlain, ?_⟩, ?_, filed, ?_⟩
  · rw [unkept]
    exact ⟨(congrArg Execution.output same).symm, (congrArg Execution.exit same).symm,
      (congrArg Execution.failure same).symm⟩
  · intro traces place received
    exact level_of_received settings request input traces received
  · intro traces
    refine ⟨errorText_takeUp settings request input traces, fun path named => ⟨?_, ?_⟩⟩
    · exact Execution.sideBySide_received (filed.trans named) traces
    · exact errorText_eq_received settings request input traces named

/-- A division by zero that is told of at length, in the only file that can be opened. -/
theorem run_unjournalled_division :
    let environment (name : String) : Option Text :=
      if name = "INTCALC_LOG_LEVEL" then some "error".toList else none
    let other (_ : String) : Option Text := none
    let settings : Settings := ⟨{}, "error".toList, none⟩
    let clauses : List Clause :=
      [.logLevel "DEBUG".toList, .evaluate "1/0".toList, .logFile "calc.log".toList]
    let denied (path : Text) : Option Text :=
      if path = "calc.log".toList then none else some "PermissionError".toList
    let execution := run settings (clauses.map Clause.argument) [] denied
    (Settings.read environment = .ok settings ∧
      (∀ name, name ≠ "INTCALC_LOG_LEVEL" → other name = environment name) ∧
      (∀ clause ∈ clauses, clause.Accepted) ∧
      (∀ path, Clause.said .logFile clauses = some path ∨ settings.logFile = some path →
        denied path = none) ∧
      (∀ event ∈ execution.journal, event.Tellable) ∧ execution.failure = none) ∧
    (∃ plain, Settings.read other = .ok plain ∧ execution.output =
      (run plain [Clause.argument (.evaluate "1/0".toList)] [] denied).output) ∧
    ∀ traces, execution.errorText traces = execution.received traces (.file "calc.log".toList) := by
  intro environment other settings clauses denied execution
  have reads : Settings.read environment = .ok settings := rfl
  have elsewhere : ∀ name, name ≠ "INTCALC_LOG_LEVEL" → other name = environment name := by
    intro name apart
    simp only [other, environment, apart, ↓reduceIte]
  have accepted : ∀ clause ∈ clauses, clause.Accepted := by
    simp only [clauses, List.forall_mem_cons]
    exact ⟨⟨_, rfl⟩, ⟨_, rfl⟩, ⟨_, rfl⟩, nofun⟩
  have named : Clause.said .logFile clauses = some "calc.log".toList := by decide
  have opens : ∀ path, Clause.said .logFile clauses = some path ∨ settings.logFile = some path →
      denied path = none := by
    rw [named]
    rintro path (same | unset)
    · obtain rfl := Option.some.inj same
      rfl
    · cases unset
  have tellable : ∀ event ∈ execution.journal, event.Tellable := by decide +kernel
  have ends : execution.failure = none := by decide +kernel
  obtain ⟨⟨plain, readsPlain, shown, -, -⟩, -, -, told⟩ :=
    run_unjournalled environment other settings clauses [] denied reads elsewhere accepted opens
  exact ⟨⟨reads, elsewhere, accepted, opens, tellable, ends⟩, ⟨plain, readsPlain, shown⟩,
    fun traces => ((told traces).2 "calc.log".toList rfl).2 tellable ends⟩

/-- Standard error receives more lines than the file where an event is lost: in a run that lasts, as
the estimate of a power has too many digits, and in a dialogue without a largest exponent. -/
theorem run_unjournalled_lost :
    (∃ execution, execution = run ⟨{}, "WARNING".toList, none⟩
        ((clausesOfPower longestNumeral).map Clause.argument) [] ∧
      (∀ clause ∈ clausesOfPower longestNumeral, clause.Accepted) ∧
      execution.journalFile = some "calc.log".toList ∧ execution.failure = none ∧
      ∀ traces, (execution.received traces (.file "calc.log".toList)).count '\n' <
        (execution.received traces .standardError).count '\n') ∧
    ∃ execution, execution = run ⟨{}, "WARNING".toList, none⟩
        (clausesOfWithdrawal.map Clause.argument) "2^(0-1)\n2^1\n".toList ∧
      (∀ clause ∈ clausesOfWithdrawal, clause.Accepted) ∧
      execution.journalFile = some "calc.log".toList ∧
      ∀ traces, (execution.received traces (.file "calc.log".toList)).count '\n' <
        (execution.received traces .standardError).count '\n' := by
  obtain ⟨accepted, filed, lasts, lost⟩ := run_longestNumeral_lost
  obtain ⟨withdrawn, kept, missing⟩ := run_withdrawal_lost
  refine ⟨⟨_, rfl, accepted, filed, lasts, fun traces => ?_⟩, _, rfl, withdrawn, kept,
    fun traces => ?_⟩
  · exact Execution.count_received_lt filed traces lost
  · exact Execution.count_received_lt kept traces missing

end CommandLine

end Reckoner
