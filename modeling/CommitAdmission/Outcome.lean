import CommitAdmission.Text.Ordered
import CommitAdmission.Text.Blank

namespace CommitAdmission

open Text

inductive Severity
  | fatal
  | error
  | warning
  | hint
  | other
  deriving DecidableEq, Repr

structure Message where
  text : String
  severity : Severity
  deriving DecidableEq, Repr

namespace Message

def ofError (text : String) : Message := ⟨text, .error⟩

def ofHint (text : String) : Message := ⟨text, .hint⟩

def isError (message : Message) : Bool := message.severity == .fatal || message.severity == .error

end Message

inductive Status
  | passed
  | skippedByUser
  deriving DecidableEq, Repr

structure Info where
  status : Status
  metadata : TextMap String
  messages : List Message
  deriving DecidableEq

namespace Info

def plain : Info := ⟨.passed, .empty, []⟩

def skipped : Info := ⟨.skippedByUser, .empty, []⟩

end Info

/-- Whose fault a rejection is: the commit breaks a rule, or the server could not check one. -/
inductive RejectionKind
  | policy
  | internal
  deriving DecidableEq, Repr

structure Rejection where
  reason : String
  messages : List Message
  kind : RejectionKind
  deriving DecidableEq, Repr

namespace Rejection

def policy (reason : String) : Rejection := ⟨reason, [], .policy⟩

def policyWith (reason : String) (messages : List Message) : Rejection := ⟨reason, messages, .policy⟩

def internal (reason : String) : Rejection := ⟨reason, [], .internal⟩

/-- The reason and then each message, on lines of their own; messages lose their blank end. -/
def fullText (rejection : Rejection) : String :=
  rejection.messages.foldl
    (fun text message => text ++ "\n" ++ String.ofList (trimEnd message.text.toList)) rejection.reason

end Rejection

/-- The infos of the validators of a run, in the order in which they ran; names may repeat. -/
structure Infos where
  entries : List (String × Info)
  deriving DecidableEq

namespace Infos

def empty : Infos := ⟨[]⟩

def push (infos : Infos) (validator : String) (info : Info) : Infos :=
  ⟨infos.entries ++ [(validator, info)]⟩

def get? (infos : Infos) (validator : String) : Option Info := infos.entries.lookup validator

def names (infos : Infos) : List String := infos.entries.map Prod.fst

def messages (infos : Infos) : List Message := infos.entries.flatMap (·.2.messages)

end Infos

end CommitAdmission
