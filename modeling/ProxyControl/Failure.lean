import ProxyControl.Json.Parse
import ProxyControl.Text.Encoding
import ProxyControl.Validation.Report

namespace ProxyControl

/-- A metric whose target drives scaling. -/
inductive Trigger where
  | cpu
  | memory
  | rps
  deriving DecidableEq, Repr

def Trigger.name : Trigger → Text
  | cpu => "cpu"
  | memory => "memory"
  | rps => "rps"

/-- One of the two cron expressions of a scheduled window. -/
inductive Boundary where
  | opening
  | closing
  deriving DecidableEq, Repr

def Boundary.name : Boundary → Text
  | opening => "start"
  | closing => "end"

/-- Why the values of a command are refused before any request is made. -/
inductive Refusal where
  | duration (value : Text)
  | scheduleSyntax (fragment : Text) (error : Json.ParseError)
  | scheduleShape (fragment : Text)
  | scheduleFields (fragment : Text) (problems : List Validation.Problem)
  | scheduleCron (fragment : Text) (boundary : Boundary) (expression : Text)
  | minimumNegative
  | maximumNotAbove (minimum maximum : Int)
  | triggerNotPositive (trigger : Trigger)
  | instanceMissing
  | linesNegative
  | serviceMissing
  | stated (message : Text) (details : List (Text × Json))
  deriving Repr

namespace Refusal

def message : Refusal → Text
  | duration value => "invalid duration " ++ value.quoted ++ ": use values like 5s, 2m or 3h"
  | scheduleSyntax fragment error => "invalid schedule " ++ fragment.quoted ++ ": " ++ error.message fragment
  | scheduleShape fragment => "invalid schedule " ++ fragment.quoted ++ ": expected a JSON object"
  | scheduleFields fragment problems =>
    let shown := problems.map fun problem =>
      Text.join "." (problem.location.map Validation.Step.plain) ++ ": " ++ problem.defect.message
    "invalid schedule " ++ fragment.quoted ++ ": " ++ Text.join "; " shown
  | scheduleCron fragment boundary expression =>
    "invalid schedule " ++ fragment.quoted ++ ": " ++ boundary.name ++ " " ++ expression.quoted ++
      " is not a valid cron expression"
  | minimumNegative => "min replicas must not be negative"
  | maximumNotAbove minimum maximum =>
    "max replicas (" ++ Text.ofInt maximum ++ ") must be greater than min replicas (" ++ Text.ofInt minimum ++ ")"
  | triggerNotPositive trigger => trigger.name ++ " must be a positive integer"
  | instanceMissing => "instance is required"
  | linesNegative => "lines must not be negative"
  | serviceMissing => "service is required when using the Tsuru target"
  | stated message _ => message

/-- The flag at fault, with its value when the message quotes it. -/
def details : Refusal → List (Text × Json)
  | duration value => [("flag", .text "since"), ("value", .text value)]
  | scheduleSyntax fragment _ | scheduleShape fragment | scheduleFields fragment _
  | scheduleCron fragment _ _ => [("flag", .text "schedule"), ("value", .text fragment)]
  | minimumNegative => [("flag", .text "min")]
  | maximumNotAbove _ _ => [("flag", .text "max")]
  | triggerNotPositive trigger => [("flag", .text trigger.name)]
  | instanceMissing => [("flag", .text "instance")]
  | linesNegative => [("flag", .text "lines")]
  | serviceMissing => [("flag", .text "service")]
  | stated _ details => details

end Refusal

/-- Why the target or the settings file cannot be used. -/
inductive Misconfiguration where
  | fileMissing (path : Text)
  | notYaml (path problem : Text)
  | notMapping (path : Text)
  | schema (path : Text) (report : Validation.Report)
  | addressEmpty
  | noTarget
  | stated (message : Text)
  deriving Repr

def Misconfiguration.message : Misconfiguration → Text
  | fileMissing path => "Configuration file not found: " ++ path
  | notYaml path problem => "Invalid YAML in " ++ path ++ ": " ++ problem
  | notMapping path => "Invalid configuration in " ++ path ++ ": expected a mapping"
  | schema path report => "Invalid configuration in " ++ path ++ ":\n" ++ report.text
  | addressEmpty => "API base URL must not be empty"
  | noTarget =>
    "no RPaaS target configured: set --rpaas-url (RPAAS_URL) or --tsuru-target and --tsuru-token " ++
      "(TSURU_TARGET, TSURU_TOKEN)"
  | stated message => message

/-- An error status of the API, with what its body said. -/
structure ApiError where
  status : Int
  reason : Text
  bodyMessage : Option Text := none
  body : Json := .null
  deriving Repr

def ApiError.message (error : ApiError) : Text := Text.ofInt error.status ++ " " ++ error.reason

/-- How an exchange with the API can break down before there is a whole answer. -/
inductive Breakdown where
  | httpError | requestError | transportError
  | timeout | connectTimeout | readTimeout | writeTimeout | poolTimeout
  | networkError | connectError | readError | writeError | closeError
  | proxyError | unsupportedProtocol | protocolError | localProtocolError | remoteProtocolError
  | decodingError | tooManyRedirects
  deriving DecidableEq, Repr

/-- Failures that no command reports: they end the invocation. -/
inductive Fault where
  | value
  | overflow
  | recursion
  | jsonSyntax
  | decoding
  | encoding
  | system
  | directory
  | fileExists
  | notDirectory
  | noSuchName
  | noSuchKey
  | noSuchIndex
  | wrongKind
  | runtime
  | notImplemented
  | url
  deriving DecidableEq, Repr

/-- Everything an operation can fail with. -/
inductive Failure where
  | internal (message : Text)
  | refused (refusal : Refusal)
  | misconfigured (problem : Misconfiguration)
  | api (error : ApiError)
  | command (operation : Text) (cause : Failure)
  | invalidData (report : Validation.Report)
  | broken (kind : Breakdown) (message : Text)
  | fault (kind : Fault) (message : Text)
  deriving Repr

namespace Failure

def message : Failure → Text
  | internal message => message
  | refused refusal => refusal.message
  | misconfigured problem => problem.message
  | api error => error.message
  | command operation cause => operation ++ ": " ++ cause.message
  | invalidData report => report.text
  | broken _ message => message
  | fault _ message => message

/-- The code of a failure that commands report as their own. -/
def code? : Failure → Option Text
  | internal _ => some "SYS_INTERNAL_ERROR"
  | refused _ => some "VAL_VALIDATION_ERROR"
  | misconfigured _ => some "SYS_CONFIGURATION_ERROR"
  | api _ => some "SYS_EXTERNAL_SERVICE_ERROR"
  | command _ _ => some "CMD_FAILED"
  | invalidData _ | broken _ _ | fault _ _ => none

/-- Whether a command ends with an error line instead of breaking off. -/
def isReported (failure : Failure) : Bool := failure.code?.isSome

/-- The failure of reading a JSON text. -/
def ofParseError (source : Text) (error : Json.ParseError) : Failure :=
  match error with
  | .syntaxError .. => fault .jsonSyntax (error.message source)
  | .tooManyDigits _ => fault .value (error.message source)
  | .tooDeep _ => fault .recursion (error.message source)

end Failure

/-- What an operation yields. -/
abbrev Outcome := Except Failure

/-- What a text that cannot be encoded comes to. -/
def encodingFailure (e : EncodingError) : Failure := .fault .encoding e.message

/-- What is made of the decimal digits of the given integers: one of too many digits cannot be written. -/
@[irreducible]
def printing {α : Type} (integers : List Int) (a : α) : Outcome α :=
  if ∀ n ∈ integers, Json.Printable n then .ok a else .error (.fault .value Text.unprintable)

end ProxyControl
