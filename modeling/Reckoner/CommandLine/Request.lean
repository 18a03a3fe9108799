import Reckoner.CommandLine.Argument
import Reckoner.CommandLine.Choice

set_option autoImplicit false

/-!
Requests: what a whole command line asks for. Of several values for one parameter the last
counts, and help is given as soon as it is asked for.
-/
namespace Reckoner

structure Request where
  evaluate : Choice Text := .unsaid
  format : Choice Format := .unsaid
  maxExponent : Choice Int := .unsaid
  version : Bool := false
  logLevel : Choice Text := .unsaid
  logFile : Choice Text := .unsaid
  healthCheck : Bool := false
  deriving Repr, DecidableEq

inductive Invocation where
  | help
  | request (request : Request)
  deriving Repr, DecidableEq

namespace Request

/-- The letters behind a parameter in short spelling: those of parameters without a value, the
last parameter, and the value attached to it. -/
def expand (parameter : Parameter) (letters : Text) :
    Except UsageFault (List Parameter × Parameter × Option Text) :=
  if parameter.takesValue then .ok ([], parameter, some letters)
  else
    match letters with
    | [] => .error (.valueUnwanted parameter [])
    | letter :: rest =>
        match Parameter.ofLetter? letter with
        | none => .error (.valueUnwanted parameter (letter :: rest))
        | some next =>
            match rest with
            | [] => .ok ([parameter], next, none)
            | c :: more => do
                let (passed, last, attached) ← expand next (c :: more)
                return (parameter :: passed, last, attached)

def parametersOf (parameter : Parameter) (short : Bool) :
    Option Text → Except UsageFault (List Parameter × Parameter × Option Text)
  | none => .ok ([], parameter, none)
  | some attached =>
      if short || parameter.takesValue then expand parameter attached
      else .error (.valueUnwanted parameter attached)

def raise (request : Request) : Parameter → Request
  | .version => { request with version := true }
  | .healthCheck => { request with healthCheck := true }
  | _ => request

/-- Takes in the value of a parameter that is confined to no numbers. -/
def put (request : Request) (parameter : Parameter) (value : Text) : Request :=
  match parameter with
  | .evaluate => { request with evaluate := .said value }
  | .format => { request with format := .said (Format.ofWord value) }
  | .logLevel => { request with logLevel := .said value }
  | .logFile => { request with logFile := .said value }
  | _ => request

def withdraw (request : Request) : Parameter → Request
  | .evaluate => { request with evaluate := .withdrawn }
  | .format => { request with format := .withdrawn }
  | .maxExponent => { request with maxExponent := .withdrawn }
  | .logLevel => { request with logLevel := .withdrawn }
  | .logFile => { request with logFile := .withdrawn }
  | _ => request

/-- Takes in a parameter with its value. A divider in place of a value takes the value back. -/
def assign (request : Request) (parameter : Parameter) (value : Text) :
    Except UsageFault Request :=
  if value = Argument.divider then .ok (request.withdraw parameter)
  else if parameter = .maxExponent then
    match readCount value with
    | .ok count => .ok { request with maxExponent := .said count }
    | .error fault => .error (fault.complaint parameter)
  else
    match parameter.choices with
    | none => .ok (request.put parameter value)
    | some choices =>
        if value ∈ choices then .ok (request.put parameter value)
        else .error (.valueNotOffered parameter value choices)

/-- Takes in the parameters of one argument, the last of them with its value, if it takes one.
Help comes before all that stands behind it. -/
def takeIn (request : Request) (passed : List Parameter) (last : Parameter)
    (value : Option Text) : Except UsageFault Invocation :=
  let raised := passed.foldl raise request
  if .help ∈ passed then .ok .help
  else
    match value with
    | some value => do return .request (← raised.assign last value)
    | none => if last = .help then .ok .help else .ok (.request (raised.raise last))

/-- Reads the arguments from first to last. What is left over at the end is a fault. -/
def collect (request : Request) (extras : List Text) :
    List (Text × Argument) → Except UsageFault Invocation
  | [] =>
      if extras.isEmpty then .ok (.request request) else .error (.unrecognized extras.reverse)
  | (_, .named parameter short attached) :: rest => do
      let (passed, last, value) ← parametersOf parameter short attached
      if last.takesValue && value.isNone then
        match rest with
        | (value, .plain) :: later =>
            match ← takeIn request passed last (some value) with
            | .help => return .help
            | .request next => collect next extras later
        | _ => .error (.valueExpected last)
      else
        match ← takeIn request passed last value with
        | .help => return .help
        | .request next => collect next extras rest
  | (argument, _) :: rest => collect request (argument :: extras) rest

/-- The form in which results are shown, for people unless another is chosen. -/
def shownFormat (request : Request) : Format := request.format.value?.getD .human

def formatTold (request : Request) : Text :=
  if request.format = .withdrawn then "[]".toList else request.shownFormat.label

def parse (arguments : List Text) : Except UsageFault Invocation := do
  collect {} [] (← Argument.classifyAll arguments)

end Request

end Reckoner
