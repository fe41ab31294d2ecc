import CommitAdmission.Json.Value

namespace CommitAdmission

inductive Level
  | error
  | warn
  | info
  | debug
  deriving DecidableEq, Repr

def Level.name : Level → String
  | error => "ERROR"
  | warn => "WARN"
  | info => "INFO"
  | debug => "DEBUG"

inductive Span
  | run
  | validator
  deriving DecidableEq, Repr

def Span.name : Span → String
  | run => "pushgate.validation"
  | validator => "pushgate.validator"

inductive FieldValue
  | text (content : String)
  | count (value : Nat)
  | flag (value : Bool)
  deriving DecidableEq, Repr

structure TraceEvent where
  level : Level
  spans : List Span
  fields : List (String × FieldValue)
  deriving DecidableEq, Repr

namespace TraceEvent

def ofMessage (level : Level) (fields : List (String × String)) (message : String) : TraceEvent :=
  ⟨level, [], fields.map (fun field => (field.1, .text field.2)) ++ [("message", .text message)]⟩

def inside (span : Span) (event : TraceEvent) : TraceEvent :=
  { event with spans := span :: event.spans }

def runStarted (commit : String) (validators : Nat) : TraceEvent :=
  ⟨.info, [], [("event", .text "validation.started"), ("commit", .text commit),
    ("validators", .count validators)]⟩

def validatorFinished (validator : String) (passed : Bool) : TraceEvent :=
  ⟨.debug, [], [("event", .text "validator.finished"), ("validator", .text validator),
    ("passed", .flag passed)]⟩

def runPassed (commit : String) : TraceEvent :=
  ⟨.info, [], [("event", .text "validation.passed"), ("commit", .text commit)]⟩

def runRejected (commit validator reason : String) : TraceEvent :=
  ⟨.info, [], [("event", .text "validation.rejected"), ("commit", .text commit),
    ("validator", .text validator), ("reason", .text reason)]⟩

def listenerFailed (listener error : String) : TraceEvent :=
  ⟨.warn, [], [("event", .text "validation.listener_failed"), ("listener", .text listener),
    ("error", .text error)]⟩

end TraceEvent

end CommitAdmission
