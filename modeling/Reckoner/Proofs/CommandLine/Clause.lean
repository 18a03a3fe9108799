import Reckoner.CommandLine.Run
import Reckoner.Proofs.Outcome
import Reckoner.Proofs.Text.Trim

set_option autoImplicit false

/-!
Command lines in long spelling: a row of clauses, each of which names one parameter and attaches its
value. They are taken in one by one, and what is said of one parameter does not depend on what is
said of the others.
-/
namespace Reckoner

namespace Parameter

def long (parameter : Parameter) : Text := parameter.spellings.getLastD []

variable (parameter : Parameter)

theorem long_eq : ∃ c rest, parameter.long = '-' :: '-' :: c :: rest := by
  cases parameter <;> exact ⟨_, _, rfl⟩

theorem equals_notMem_long : '=' ∉ parameter.long := by
  cases parameter <;> decide

theorem ofSpelling?_long : ofSpelling? parameter.long = some parameter := by
  cases parameter <;> decide

theorem equals_notMem_spelled : ∀ entry ∈ spelled, '=' ∉ entry.1 := by decide

theorem ofSpelling?_of_equals {text : Text} (equals : '=' ∈ text) : ofSpelling? text = none := by
  rw [ofSpelling?, List.lookup_eq_none_iff]
  intro entry member
  have absent := equals_notMem_spelled entry member
  rw [bne_iff_ne]
  rintro rfl
  exact absent equals

end Parameter

/-- A parameter other than help, with its value attached if it takes one. -/
structure Clause where
  parameter : Parameter
  value : Option Text
  fits : value.isSome = parameter.takesValue
  serious : parameter ≠ .help

namespace Clause

def evaluate (text : Text) : Clause := ⟨.evaluate, some text, rfl, nofun⟩

def format (word : Text) : Clause := ⟨.format, some word, rfl, nofun⟩

def maxExponent (numeral : Text) : Clause := ⟨.maxExponent, some numeral, rfl, nofun⟩

def logLevel (word : Text) : Clause := ⟨.logLevel, some word, rfl, nofun⟩

def logFile (path : Text) : Clause := ⟨.logFile, some path, rfl, nofun⟩

def argument (clause : Clause) : Text :=
  match clause.value with
  | some value => clause.parameter.long ++ '=' :: value
  | none => clause.parameter.long

def take (request : Request) (clause : Clause) : Except UsageFault Request :=
  match clause.value with
  | some value => request.assign clause.parameter value
  | none => .ok (request.raise clause.parameter)

/-- Takes a row of clauses into a request, from first to last. -/
def takeAll (request : Request) (clauses : List Clause) : Except UsageFault Request :=
  clauses.foldlM take request

theorem takeAll_cons (request : Request) (clause : Clause) (rest : List Clause) :
    takeAll request (clause :: rest) = take request clause >>= fun next => takeAll next rest :=
  List.foldlM_cons

theorem takeAll_append (request : Request) (front back : List Clause) :
    takeAll request (front ++ back) = takeAll request front >>= fun next => takeAll next back :=
  List.foldlM_append

def Accepted (clause : Clause) : Prop := ∃ request, take {} clause = .ok request

theorem take_maxExponent {numeral : Text} {count : Int} (reads : readCount numeral = .ok count)
    (request : Request) :
    take request (.maxExponent numeral) = .ok { request with maxExponent := .said count } := by
  have kept : numeral ≠ Argument.divider := by
    rintro rfl
    cases reads
  simp only [take, Clause.maxExponent, Request.assign, kept, ↓reduceIte, reads]

theorem take_format (chosen : Format) (request : Request) :
    take request (.format chosen.label) = .ok { request with format := .said chosen } := by
  cases chosen <;> rfl

theorem take_evaluate {text : Text} (kept : text ≠ Argument.divider) (request : Request) :
    take request (.evaluate text) = .ok { request with evaluate := .said text } := by
  simp only [take, Clause.evaluate, Request.assign, kept, ↓reduceIte]
  rfl

section Parsing

variable (clause : Clause)

theorem argument_eq : ∃ c rest, clause.argument = '-' :: '-' :: c :: rest := by
  obtain ⟨c, rest, long⟩ := clause.parameter.long_eq
  unfold argument
  split
  · next value _ => exact ⟨c, rest ++ '=' :: value, by rw [long]; rfl⟩
  · exact ⟨c, rest, long⟩

theorem argument_ne_divider : clause.argument ≠ Argument.divider := by
  obtain ⟨c, rest, whole⟩ := clause.argument_eq
  rw [whole]
  intro same
  cases same

theorem asSpelled_argument :
    Argument.asSpelled clause.argument = some (.named clause.parameter false clause.value) := by
  obtain ⟨c, rest, long⟩ := clause.parameter.long_eq
  have full : Argument.isShort clause.parameter.long = false := by rw [long]; rfl
  unfold argument
  split
  · next value given =>
      have unspelled : Parameter.ofSpelling? (clause.parameter.long ++ '=' :: value) = none :=
        Parameter.ofSpelling?_of_equals (by simp)
      simp only [Argument.asSpelled, unspelled,
        Text.splitFirst_append '=' _ value clause.parameter.equals_notMem_long,
        Parameter.ofSpelling?_long, Option.map_some, full, given]
  · next absent => simp only [Argument.asSpelled, Parameter.ofSpelling?_long, full, absent]

theorem classify_argument :
    Argument.classify clause.argument = .ok (.named clause.parameter false clause.value) := by
  have spelled := clause.asSpelled_argument
  obtain ⟨c, rest, whole⟩ := clause.argument_eq
  rw [whole] at spelled ⊢
  simp only [Argument.classify, spelled]

theorem classifyAll_argument (clauses : List Clause) :
    Argument.classifyAll (clauses.map argument) =
      .ok (clauses.map fun clause =>
        (clause.argument, .named clause.parameter false clause.value)) := by
  induction clauses with
  | nil => rfl
  | cons clause rest ih =>
      simp only [List.map_cons, Argument.classifyAll, clause.argument_ne_divider, ↓reduceIte,
        clause.classify_argument, ih, ok_bind]
      rfl

theorem parametersOf_clause :
    Request.parametersOf clause.parameter false clause.value =
      .ok ([], clause.parameter, clause.value) := by
  have fits := clause.fits
  cases given : clause.value with
  | none => rfl
  | some value =>
      rw [given] at fits
      have takes : clause.parameter.takesValue = true := fits.symm
      simp only [Request.parametersOf, takes, Bool.or_true, ↓reduceIte]
      unfold Request.expand
      rw [takes]
      rfl

/-- Reading a clause is to take it in, and then to read the rest. -/
theorem collect_clause (request : Request) (argument : Text) (rest : List (Text × Argument)) :
    Request.collect request []
        ((argument, .named clause.parameter false clause.value) :: rest) =
      take request clause >>= fun next => Request.collect next [] rest := by
  have parts := clause.parametersOf_clause
  rw [Request.collect, parts, ok_bind]
  cases given : clause.value with
  | none =>
      have fits := clause.fits
      rw [given] at fits
      simp [← fits, Request.takeIn, clause.serious, take, given, ok_bind]
  | some value =>
      simp only [Option.isNone_some, Bool.and_false, Bool.false_eq_true, ↓reduceIte,
        Request.takeIn, List.not_mem_nil, List.foldl_nil, take, given]
      cases request.assign clause.parameter value with
      | error fault => rfl
      | ok next => rfl

/-- A row of clauses asks for what taking them in comes to. -/
theorem parse_clauses (clauses : List Clause) :
    Request.parse (clauses.map argument) = (takeAll {} clauses).map .request := by
  rw [Request.parse, classifyAll_argument, ok_bind]
  generalize ({} : Request) = request
  induction clauses generalizing request with
  | nil => rfl
  | cons clause rest ih =>
      rw [List.map_cons, collect_clause, takeAll_cons]
      cases take request clause with
      | error fault => rfl
      | ok next => exact ih next

end Parsing

end Clause

namespace CommandLine

def setupOf (settings : Settings) (request : Request) : JournalSetup :=
  .ofSettings settings request.logLevel.value? request.logFile.value?

theorem launch_allowed {denied : Text → Option Text} {start : Start}
    (opens : ∀ path, start.journalFile = some path → denied path = none) :
    launch denied start = start := by
  unfold launch
  cases filed : start.journalFile with
  | none => rfl
  | some path =>
      rw [Option.bind_some, opens path filed]

theorem start_clauses (settings : Settings) {clauses : List Clause} {request : Request}
    (taken : Clause.takeAll {} clauses = .ok request) :
    start settings (clauses.map Clause.argument) = takeUp settings request := by
  rw [start, Clause.parse_clauses, taken]
  rfl

/-- A run on accepted clauses takes up what they ask for. -/
theorem run_taken (settings : Settings) {clauses : List Clause} {request : Request}
    (taken : Clause.takeAll {} clauses = .ok request) (input : Text) :
    run settings (clauses.map Clause.argument) input =
      conclude input (takeUp settings request) := by
  rw [run, launch_allowed fun _ _ => rfl, start_clauses settings taken]

section TakeUp

variable (settings : Settings) {request : Request} (unversioned : request.version = false)
  (unchecked : request.healthCheck = false)

include unversioned unchecked

theorem takeUp_dialogue (unasked : request.evaluate = .unsaid) :
    takeUp settings request =
      .dialogue (boundsOf settings.limits request.maxExponent) request
        (setupOf settings request) := by
  simp only [takeUp, unversioned, unchecked, unasked, Bool.false_eq_true, ↓reduceIte, setupOf]

theorem takeUp_evaluate {text : Text} (asked : request.evaluate = .said text) :
    takeUp settings request =
      .finished (evaluateOnce (boundsOf settings.limits request.maxExponent) request.shownFormat
        (setupOf settings request) text.trim) := by
  simp only [takeUp, unversioned, unchecked, asked, Bool.false_eq_true, ↓reduceIte, setupOf]

end TakeUp

end CommandLine

namespace Request

/-- A request in which nothing is said of the hidden parameters. -/
def without (hidden : Parameter → Bool) (request : Request) : Request where
  evaluate := if hidden .evaluate then .unsaid else request.evaluate
  format := if hidden .format then .unsaid else request.format
  maxExponent := if hidden .maxExponent then .unsaid else request.maxExponent
  version := !hidden .version && request.version
  logLevel := if hidden .logLevel then .unsaid else request.logLevel
  logFile := if hidden .logFile then .unsaid else request.logFile
  healthCheck := !hidden .healthCheck && request.healthCheck

section Without

variable (hidden : Parameter → Bool) (parameter : Parameter) (value : Text)

theorem without_empty : without hidden {} = {} := by
  simp [without]

/-- A change to a request touches one parameter, without regard to the others. -/
def Touches (parameter : Parameter) (change : Request → Request) : Prop :=
  ∀ hidden request, (change request).without hidden =
    if hidden parameter then request.without hidden else change (request.without hidden)

theorem touches_raise : Touches parameter fun request => request.raise parameter := by
  intro hidden request
  cases named : hidden parameter <;> cases parameter <;> simp [raise, without, named]

theorem touches_put : Touches parameter fun request => request.put parameter value := by
  intro hidden request
  cases named : hidden parameter <;> cases parameter <;> simp [put, without, named]

theorem touches_withdraw : Touches parameter fun request => request.withdraw parameter := by
  intro hidden request
  cases named : hidden parameter <;> cases parameter <;> simp [withdraw, without, named]

theorem touches_maxExponent (count : Int) :
    Touches .maxExponent fun request => { request with maxExponent := .said count } := by
  intro hidden request
  cases named : hidden .maxExponent <;> simp [without, named]

/-- What becomes of a value, whatever else was said: it is refused, it takes its parameter back, or
it is taken in as it stands or as a count. -/
inductive Judged : Prop where
  | refused (fault : UsageFault)
      (refuses : ∀ request : Request, request.assign parameter value = .error fault)
  | withdrawn (divider : value = Argument.divider)
      (takes : ∀ request : Request,
        request.assign parameter value = .ok (request.withdraw parameter))
  | put (kept : value ≠ Argument.divider)
      (takes : ∀ request : Request,
        request.assign parameter value = .ok (request.put parameter value))
  | counted (count : Int) (largest : parameter = .maxExponent)
      (takes : ∀ request : Request,
        request.assign parameter value = .ok { request with maxExponent := .said count })

theorem judged : Judged parameter value := by
  by_cases divider : value = Argument.divider
  · exact .withdrawn divider fun _ => if_pos divider
  by_cases largest : parameter = .maxExponent
  · cases counts : readCount value with
    | error fault =>
        refine .refused (fault.complaint parameter) fun _ => ?_
        simp only [assign, divider, largest, counts, ↓reduceIte]
    | ok count =>
        refine .counted count largest fun _ => ?_
        simp only [assign, divider, largest, counts, ↓reduceIte]
  cases offers : parameter.choices with
  | none =>
      refine .put divider fun _ => ?_
      simp only [assign, divider, largest, offers, ↓reduceIte]
  | some choices =>
      by_cases offered : value ∈ choices
      · refine .put divider fun _ => ?_
        simp only [assign, divider, largest, offers, offered, ↓reduceIte]
      · refine .refused (.valueNotOffered parameter value choices) fun _ => ?_
        simp only [assign, divider, largest, offers, offered, ↓reduceIte]

end Without

end Request

namespace Clause

variable (hidden : Parameter → Bool)

/-- A clause is refused or accepted whatever else was said, and changes its parameter only. -/
theorem take_cases (clause : Clause) :
    (∃ fault, ∀ request, take request clause = .error fault) ∨
      ∃ change, Request.Touches clause.parameter change ∧
        ∀ request, take request clause = .ok (change request) := by
  unfold take
  cases clause.value with
  | none => exact .inr ⟨_, Request.touches_raise clause.parameter, fun _ => rfl⟩
  | some value =>
      cases Request.judged clause.parameter value with
      | refused fault refuses => exact .inl ⟨fault, refuses⟩
      | withdrawn divider takes => exact .inr ⟨_, Request.touches_withdraw _, takes⟩
      | put kept takes => exact .inr ⟨_, Request.touches_put _ value, takes⟩
      | counted count largest takes =>
          exact .inr ⟨_, largest ▸ Request.touches_maxExponent count, takes⟩

/-- What an accepted row of clauses says of the parameters that are not hidden, it says without the
clauses for the hidden ones as well. -/
theorem takeAll_filter {request asked : Request} {clauses : List Clause}
    (taken : takeAll request clauses = .ok asked) :
    takeAll (request.without hidden) (clauses.filter fun clause => !hidden clause.parameter) =
      .ok (asked.without hidden) := by
  induction clauses generalizing request with
  | nil =>
      cases taken
      rfl
  | cons clause rest ih =>
      rw [takeAll_cons] at taken
      rcases take_cases clause with ⟨fault, refused⟩ | ⟨change, touches, changed⟩
      · rw [refused] at taken
        cases taken
      rw [changed, ok_bind] at taken
      have later := ih taken
      rw [touches hidden request] at later
      cases named : hidden clause.parameter with
      | true =>
          rw [named, if_pos rfl] at later
          simpa only [List.filter_cons, named, Bool.not_true, Bool.false_eq_true, ↓reduceIte]
            using later
      | false =>
          rw [named, if_neg Bool.false_ne_true] at later
          simp only [List.filter_cons, named, Bool.not_false, ↓reduceIte]
          rw [takeAll_cons, changed, ok_bind, later]

theorem takeAll_accepted {clauses : List Clause} (accepted : ∀ clause ∈ clauses, clause.Accepted)
    (request : Request) : ∃ asked, takeAll request clauses = .ok asked := by
  induction clauses generalizing request with
  | nil => exact ⟨request, rfl⟩
  | cons clause rest ih =>
      rw [List.forall_mem_cons] at accepted
      rw [takeAll_cons]
      rcases take_cases clause with ⟨fault, refused⟩ | ⟨change, -, changed⟩
      · obtain ⟨next, done⟩ := accepted.1
        rw [refused] at done
        cases done
      · rw [changed]
        exact ih accepted.2 (change request)

end Clause

end Reckoner
