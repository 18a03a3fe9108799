import Reckoner.Proofs.Calculator.Display
import Reckoner.Proofs.Journal.Telling
import Reckoner.Proofs.Session.Widening
import Reckoner.Proofs.Token.Nesting

set_option autoImplicit false

/-!
Faults in the journal. A call that is answered with a fault has told of it once, at the end, with
the code of the fault, and a call that is not has told of none. How far a line was read is told
before, exactly as far as it could be read.
-/
namespace Reckoner

/-- The text is taken as an expression, and is scanned without a fault. -/
structure Text.Scanned (limits : Limits) (text : Text) : Prop where
  occupied : text.isBlank = false
  short : text.length ≤ limits.maxInputLength
  plain : '=' ∉ text
  accepted : ∃ tokens, Token.scan text = .ok tokens

/-- What is told of how far a text is read: nothing, its tokens, or also their post-order. -/
inductive Text.Reading (limits : Limits) (text : Text) : List Event → Prop where
  | unread (other : ¬ text.Scanned limits) : Reading limits text []
  | tokens {tokens : List Token} (taken : text.Scanned limits)
      (scanned : Token.scan text = .ok tokens) (unnested : ¬ Nested (· == '(') (· == ')') text) :
      Reading limits text [.scanned text tokens]
  | ordered {tokens sent : List Token} (taken : text.Scanned limits)
      (scanned : Token.scan text = .ok tokens) (nested : Nested (· == '(') (· == ')') text)
      (ordered : PostOrder.ofTokens tokens = .ok sent) :
      Reading limits text [.scanned text tokens, .reordered sent]

namespace Event

/-- The event tells how far a line is read. -/
def isReading : Event → Bool
  | .scanned _ _ => true
  | .reordered _ => true
  | _ => false

/-- The event tells neither of the reading of a line nor of a fault that is answered. -/
def isWork (event : Event) : Bool := !event.isReading && event.code.isNone

theorem isWork_iff (event : Event) :
    event.isWork = true ↔ event.isReading = false ∧ event.code = none := by
  simp [isWork]

end Event

namespace Calculator

variable (limits : Limits) (memory : Variables)

theorem evaluationEvents_isWork (tokens : List Token) :
    ∀ event ∈ evaluationEvents limits memory tokens, event.isWork = true := by
  unfold evaluationEvents
  split
  · exact List.forall_mem_singleton.mpr rfl
  · exact List.forall_mem_singleton.mpr rfl
  · exact List.forall_mem_nil _
  · split
    · exact List.forall_mem_singleton.mpr rfl
    · exact List.forall_mem_nil _

theorem assignmentEvents_isWork (name operand : Text) :
    ∀ event ∈ assignmentEvents memory name operand, event.isWork = true := by
  unfold assignmentEvents
  split
  · exact List.forall_mem_singleton.mpr rfl
  · exact List.forall_mem_nil _

/-- An expression is read as far as its tokens and its parentheses allow. -/
theorem expressionEvents_reading {text : Text} (occupied : text.isBlank = false)
    (short : text.length ≤ limits.maxInputLength) (plain : '=' ∉ text) :
    ∃ reading later, expressionEvents limits memory text = reading ++ later ∧
      text.Reading limits reading ∧ ∀ event ∈ later, event.isWork = true := by
  cases scanned : Token.scan text with
  | error fault =>
      refine ⟨[], [], ?_, .unread fun taken => ?_, List.forall_mem_nil _⟩
      · simp only [expressionEvents, readingEvents, postOrder, scanned, error_bind, List.append_nil]
      · obtain ⟨tokens, accepted⟩ := taken.accepted
        rw [scanned] at accepted
        cases accepted
  | ok tokens =>
      have taken : text.Scanned limits := ⟨occupied, short, plain, tokens, scanned⟩
      have same := Token.nested_iff_of_scan scanned
      rcases PostOrder.ofTokens_cases tokens with ⟨unnested, refused⟩ | ⟨nested, sent, ordered, -⟩
      · refine ⟨_, [], ?_, .tokens taken scanned fun nested => unnested (same.mpr nested),
          List.forall_mem_nil _⟩
        simp only [expressionEvents, readingEvents, postOrder, scanned, refused, ok_bind,
          List.append_nil]
      · refine ⟨_, evaluationEvents limits memory sent, ?_,
          .ordered taken scanned (same.mp nested) ordered,
          evaluationEvents_isWork limits memory sent⟩
        simp only [expressionEvents, readingEvents, postOrder, scanned, ordered, ok_bind]

/-- What is told while a text is worked out: how far it is read, then nothing more of that kind, and
nothing of a fault that is answered. -/
theorem calculationEvents_reading (text : Text) :
    ∃ reading later, calculationEvents limits memory text = reading ++ later ∧
      text.Reading limits reading ∧ ∀ event ∈ later, event.isWork = true := by
  unfold calculationEvents
  cases occupied : text.isBlank with
  | true =>
      refine ⟨[], [], rfl, .unread fun taken => ?_, List.forall_mem_nil _⟩
      rw [taken.occupied] at occupied
      cases occupied
  | false =>
      simp only [Bool.false_eq_true, ↓reduceIte]
      by_cases long : limits.maxInputLength < text.length
      · refine ⟨[], _, if_pos long, .unread fun taken => ?_, List.forall_mem_singleton.mpr rfl⟩
        exact absurd taken.short (Int.not_le.mpr long)
      rw [if_neg long]
      by_cases equals : '=' ∈ text
      · refine ⟨[], _, rfl, .unread fun taken => taken.plain equals, ?_⟩
        obtain ⟨left, right, rfl, absent⟩ := List.eq_append_cons_of_mem equals
        rw [Text.splitFirst_append '=' left right absent]
        exact assignmentEvents_isWork memory _ _
      · rw [Text.splitFirst_of_notMem '=' text equals]
        exact expressionEvents_reading limits memory occupied (Int.not_lt.mp long) equals

end Calculator

namespace Text.Reading

variable {limits : Limits} {text : Text} {reading : List Event}
  (read : text.Reading limits reading)

include read

theorem code_eq_none : ∀ event ∈ reading, event.code = none := by
  cases read with
  | unread other => exact List.forall_mem_nil _
  | tokens taken scanned unnested => exact List.forall_mem_singleton.mpr rfl
  | ordered taken scanned nested ordered => simp [Event.code]

theorem scanned_iff :
    (∃ shown tokens, Event.scanned shown tokens ∈ reading) ↔ text.Scanned limits := by
  cases read with
  | unread other => simpa using other
  | tokens taken scanned unnested => simpa using taken
  | ordered taken scanned nested ordered => simpa using taken

theorem reordered_iff : (∃ sent, Event.reordered sent ∈ reading) ↔
    text.Scanned limits ∧ Nested (· == '(') (· == ')') text := by
  cases read with
  | unread other => simp [other]
  | tokens taken scanned unnested => simp [unnested]
  | ordered taken scanned nested ordered => simpa using ⟨taken, nested⟩

end Text.Reading

theorem Route.answer_succeeded (route : Route) (value : Option Int) :
    ¬ (route.answer (.ok value)).Failed := by
  cases value with
  | none => exact route.answer_assigned
  | some n =>
      have shown (fault : Fault) : Decimal.ofInt n ≠ fault.message :=
        Display.decimal_ne_message (Decimal.ofInt_canonical n) fault
      cases route with
      | calculate => exact not_false
      | report => exact Bool.noConfusion
      | line => exact fun failed => failed.elim shown
      | command => exact fun failed => failed.elim shown

/-- The calls that work out a line and answer the fault that it ends in, if it does. -/
inductive Call where
  | line
  | report
  deriving Repr, DecidableEq

namespace Call

def route : Call → Route
  | .line => .line
  | .report => .report

def failure (text : Text) (fault : Fault) : Call → Event
  | .line => .lineFailed text fault
  | .report => .evaluationFailed text fault

def events (limits : Limits) (memory : Variables) (text : Text) : Call → List Event
  | .line => Calculator.lineEvents limits memory text
  | .report => Calculator.reportEvents limits memory text

/-- A call that tells of its work where it is done. -/
def told (limits : Limits) (memory : Variables) (text : Text) (call : Call) :
    Told (Answer × Variables) :=
  Told.orElse
    (do
      let (value, after) ← Telling.calculate limits memory text.trim
      return (call.route.answer (.ok value), after))
    fun fault => do
      Told.tell (call.failure text fault)
      return (call.route.answer (.error fault), memory)

variable (call : Call) (limits : Limits) (memory : Variables) (text : Text)

theorem passed_route : call.route.passed text = some text.trim := by
  cases call with
  | line => rfl
  | report => rfl

theorem code_failure (fault : Fault) : (call.failure text fault).code = some fault.code := by
  cases call with
  | line => rfl
  | report => rfl

theorem entry_failure (fault : Fault) : ∃ entry, (call.failure text fault).entry = some entry ∧
    entry.level = Level.debug ∧ entry.code = some fault.code := by
  cases call with
  | line => exact ⟨_, rfl, rfl, rfl⟩
  | report => exact ⟨_, rfl, rfl, rfl⟩

theorem events_eq : call.events limits memory text =
    Calculator.calculationEvents limits memory text.trim ++
      match Calculator.calculate limits memory text.trim with
      | .ok _ => []
      | .error fault => [call.failure text fault] := by
  cases call with
  | line => rfl
  | report => rfl

/-- A call tells in the course of its work what is read off from it, and answers as it does when it
tells nothing. -/
theorem told_eq : call.told limits memory text =
    ⟨call.events limits memory text,
      .ok (Session.step limits memory (call.route.request text))⟩ := by
  have worked := Told.bind_silent (Calculator.calculationEvents limits memory text.trim)
    (Calculator.calculate limits memory text.trim)
    fun result => .ok (call.route.answer (.ok result.1), result.2)
  rw [← Telling.calculate_eq] at worked
  rw [events_eq, Session.step_of_passed limits memory _ text text.trim (call.passed_route text)]
  refine (congrArg (Told.orElse · _) worked).trans ?_
  cases Calculator.calculate limits memory text.trim with
  | ok result =>
      rw [List.append_nil]
      rfl
  | error fault => rfl

theorem events_reading : ∃ reading later, call.events limits memory text = reading ++ later ∧
    text.trim.Reading limits reading ∧ ∀ event ∈ later, event.isReading = false := by
  obtain ⟨reading, work, parts, read, works⟩ :=
    Calculator.calculationEvents_reading limits memory text.trim
  refine ⟨reading, _, by rw [events_eq, parts, List.append_assoc], read, ?_⟩
  intro event member
  rcases List.mem_append.mp member with worked | failed
  · exact (event.isWork_iff.mp (works event worked)).1
  · split at failed
    · cases failed
    · obtain rfl := List.mem_singleton.mp failed
      cases call with
      | line => rfl
      | report => rfl

/-- While a line is worked out, nothing is told of the fault that is answered. -/
theorem code_of_calculation {event : Event}
    (told : event ∈ Calculator.calculationEvents limits memory text) : event.code = none := by
  obtain ⟨reading, work, parts, read, works⟩ :=
    Calculator.calculationEvents_reading limits memory text
  rw [parts] at told
  rcases List.mem_append.mp told with early | late
  · exact read.code_eq_none event early
  · exact (event.isWork_iff.mp (works event late)).2

section Outcome

variable {limits memory text}

theorem answer_of_error {fault : Fault}
    (refused : Calculator.calculate limits memory text.trim = .error fault) :
    (Session.step limits memory (call.route.request text)).1 =
      call.route.answer (.error fault) := by
  rw [Session.answer_of_passed limits memory _ text text.trim (call.passed_route text), refused]
  rfl

theorem failed_iff : (Session.step limits memory (call.route.request text)).1.Failed ↔
    ∃ fault, Calculator.calculate limits memory text.trim = .error fault := by
  rw [Session.answer_of_passed limits memory _ text text.trim (call.passed_route text)]
  cases Calculator.calculate limits memory text.trim with
  | ok result =>
      refine iff_of_false (call.route.answer_succeeded result.1) ?_
      rintro ⟨fault, refused⟩
      cases refused
  | error fault => exact iff_of_true (call.route.answer_failed fault) ⟨fault, rfl⟩

theorem coded_iff : (∃ event ∈ call.events limits memory text, event.code ≠ none) ↔
    ∃ fault, Calculator.calculate limits memory text.trim = .error fault := by
  rw [events_eq]
  cases Calculator.calculate limits memory text.trim with
  | ok result =>
      refine iff_of_false ?_ ?_
      · rintro ⟨event, told, coded⟩
        rw [List.append_nil] at told
        exact coded (code_of_calculation limits memory _ told)
      · rintro ⟨fault, refused⟩
        cases refused
  | error fault =>
      refine iff_of_true ⟨_, List.mem_append_right _ (List.mem_singleton_self _), ?_⟩ ⟨fault, rfl⟩
      simp [code_failure]

end Outcome

/-- A call is answered with a fault exactly if an event with a code is told. Then this event is the
last one, it is the only one, and its code is that of the fault. The tokens of the line are told of
exactly if it is an expression within the limit that can be scanned, and behind them their
post-order exactly if the parentheses of the line are nested as well. -/
theorem failure_told_once :
    let events := call.events limits memory text
    let answer := (Session.step limits memory (call.route.request text)).1
    call.told limits memory text =
        ⟨events, .ok (Session.step limits memory (call.route.request text))⟩ ∧
      ((∃ event ∈ events, event.code ≠ none) ↔ answer.Failed) ∧
      (answer.Failed ↔ ∃ fault, Calculator.calculate limits memory text.trim = .error fault) ∧
      (∀ fault, Calculator.calculate limits memory text.trim = .error fault →
        answer = call.route.answer (.error fault) ∧
        ∃ before entry, events = before ++ [call.failure text fault] ∧
          (∀ event ∈ before, event.code = none) ∧
          (call.failure text fault).code = some fault.code ∧
          (call.failure text fault).entry = some entry ∧
          entry.level = Level.debug ∧ entry.code = some fault.code) ∧
      ((∃ shown tokens, Event.scanned shown tokens ∈ events) ↔ text.trim.Scanned limits) ∧
      ((∃ sent, Event.reordered sent ∈ events) ↔
        text.trim.Scanned limits ∧ Nested (· == '(') (· == ')') text.trim) ∧
      ∃ reading later, events = reading ++ later ∧ text.trim.Reading limits reading ∧
        ∀ event ∈ later, event.isReading = false := by
  obtain ⟨reading, later, parts, read, others⟩ := call.events_reading limits memory text
  have kept {event : Event} (reads : event.isReading = true) :
      event ∈ call.events limits memory text ↔ event ∈ reading := by
    rw [parts, List.mem_append, or_iff_left]
    intro late
    rw [others event late] at reads
    cases reads
  refine ⟨call.told_eq limits memory text, call.coded_iff.trans call.failed_iff.symm,
    call.failed_iff, fun fault refused => ⟨call.answer_of_error refused, ?_⟩, ?_, ?_,
    reading, later, parts, read, others⟩
  · obtain ⟨entry, left, level, code⟩ := call.entry_failure text fault
    refine ⟨Calculator.calculationEvents limits memory text.trim, entry, ?_,
      fun event => code_of_calculation limits memory text.trim, call.code_failure text fault, left,
      level, code⟩
    rw [events_eq, refused]
  · rw [← read.scanned_iff]
    exact exists_congr fun shown => exists_congr fun tokens => kept rfl
  · rw [← read.reordered_iff]
    exact exists_congr fun sent => kept rfl

/-- A power that is refused, after the line was read to its end. -/
example : (report.events {} Table.empty " 2 ^ (1 - 3)".toList).map
    (fun event => (event.source, event.code)) =
      [("lexer".toList, none), ("parser".toList, none), ("evaluator".toList, none),
        ("api".toList, some "INVALID_EXPRESSION".toList)] := by
  decide

end Call

end Reckoner
