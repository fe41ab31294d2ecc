import CommitAdmission.Digest
import CommitAdmission.Text.Hex
import CommitAdmission.Validator

namespace CommitAdmission

open Text

/-- What becomes of a call of a listener; it may panic with a text or with anything else. -/
inductive Reply
  | succeeded
  | failed (error : String)
  | panicked (payload : Option String)
  deriving DecidableEq, Repr

namespace Reply

def error? : Reply → Option String
  | succeeded => none
  | failed error => some error
  | panicked (some payload) => some ("panicked: " ++ payload)
  | panicked none => some "panicked"

end Reply

/-- How a listener takes a call: what it says meanwhile, and what becomes of the call. -/
structure Hearing where
  remarks : List TraceEvent
  reply : Reply

instance : Coe Reply Hearing := ⟨Hearing.mk []⟩

structure Listener where
  name : String
  hear : Infos → ReceivedCommit → Option PatchSetId → Hearing

structure Chain where
  validators : List Validator
  listeners : List Listener

structure RunOptions where
  patchSet : Option PatchSetId
  invokeListeners : Bool
  deriving DecidableEq, Repr

structure Run where
  verdict : Except Rejection Infos
  effects : List Effect

namespace Listener

def report (listener : Listener) (reply : Reply) : List Effect :=
  match reply.error? with
  | none => []
  | some error => [.counted .listenersFailed, .emitted (.listenerFailed listener.name error)]

def notify (infos : Infos) (received : ReceivedCommit) (patchSet : Option PatchSetId)
    (listener : Listener) : List Effect :=
  let hearing := listener.hear infos received patchSet
  .notified ⟨listener.name, infos, received, patchSet⟩ ::
    (hearing.remarks.map .remarked ++ listener.report hearing.reply)

end Listener

namespace Chain

def names (chain : Chain) : List String := chain.validators.map Validator.name

def preimage (chain : Chain) : String := String.join (chain.names.map (· ++ "\n"))

def fingerprint (chain : Chain) : String :=
  String.ofList ((Digest.sha256 chain.preimage.toUTF8.toList).flatMap hexByte)

def notifyListeners (chain : Chain) (infos : Infos) (received : ReceivedCommit)
    (patchSet : Option PatchSetId) : List Effect :=
  chain.listeners.flatMap (Listener.notify infos received patchSet)

def turn (world : Collaborators) (candidate : Candidate) (passed : Bool) (validator : Validator) :
    List Effect :=
  (validator.judge world candidate).acts.map (fun act => .acted (act.inside .validator)) ++
    [.counted .validatorsExecuted, .emitted (.validatorFinished validator.name passed)]

def opening (chain : Chain) (received : ReceivedCommit) : List Effect :=
  [.counted .runsStarted,
    .emitted (.runStarted received.commit.id.name chain.validators.length)]

def afterRejecting (received : ReceivedCommit) (validator : Validator) (reason : String) :
    List Effect :=
  [.counted .runsRejected,
    .emitted (.runRejected received.commit.id.name validator.name reason)]

/-- Runs validators one after another, up to the first that rejects. Its rejection is preceded by
the messages of those before it. -/
def runFrom (world : Collaborators) (candidate : Candidate) (infos : Infos) : List Validator → Run
  | [] => ⟨.ok infos, []⟩
  | validator :: rest =>
    match validator.outcome world candidate with
    | .ok info =>
      let run := runFrom world candidate (infos.push validator.name info) rest
      ⟨run.verdict, turn world candidate true validator ++ run.effects⟩
    | .error rejection =>
      ⟨.error { rejection with messages := infos.messages ++ rejection.messages },
        turn world candidate false validator ++
          afterRejecting candidate.toReceivedCommit validator rejection.reason⟩

def afterPassing (chain : Chain) (options : RunOptions) (infos : Infos)
    (received : ReceivedCommit) : List Effect :=
  .emitted (.runPassed received.commit.id.name) ::
    if options.invokeListeners then chain.notifyListeners infos received options.patchSet else []

def validate (world : Collaborators) (chain : Chain) (dossier : Dossier) (options : RunOptions) :
    Run :=
  let received := dossier.toReceivedCommit
  let run := runFrom world (dossier.candidate world) .empty chain.validators
  let finish := match run.verdict with
    | .ok infos => chain.afterPassing options infos received
    | .error _ => []
  ⟨run.verdict,
    dossier.request world ((chain.opening received ++ run.effects ++ finish).map (.inside .run))⟩

end Chain

end CommitAdmission
