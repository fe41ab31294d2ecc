import CommitAdmission.InstallHint
import CommitAdmission.Validator

namespace CommitAdmission

open Text

namespace ChangeId

def isWellFormed : List Char → Bool
  | 'I' :: digits => digits.length == 40 && digits.all isLowerHex
  | _ => false

def isValid (text : List Char) : Bool := isWellFormed (trim text)

/-- A Change-Id of zeros only stands for one that is still to be made. -/
def isPlaceholder : List Char → Bool
  | 'I' :: '0' :: digits => digits.all (· == '0')
  | _ => false

def marker : List Char := "Change-Id:".toList

def hasMarkerLine : List Char → Bool
  | [] => false
  | c :: rest => (c == '\n' && startsWith marker rest) || hasMarkerLine rest

/-- Whether the subject is a Change-Id, which leaves the commit without a subject. -/
def inSubject (subject : List Char) : Bool :=
  match after? marker subject with
  | some rest => isValid rest
  | none => false

def missing : String := "missing Change-Id in message footer"

def missingSubject : String := "missing subject; Change-Id must be in message footer"

def aboveFooter : String := "Change-Id must be in message footer"

def multiple : String := "multiple Change-Id lines in message footer"

def malformed : String := "invalid Change-Id line format in message footer"

def mismatch : String :=
  "Change-Id in message footer does not match Change-Id of target change"

/-- Only pushes for review and of new patch sets need a Change-Id. -/
def isExpected (ref : String) : Bool :=
  RefName.isMagic ref || (RefName.newPatchSetChange? ref).isSome

def aboveFooterRejection : Rejection :=
  .policyWith aboveFooter [.ofError <| aboveFooter ++ "\n\nHint: run\n  git commit --amend\n" ++
    "and move 'Change-Id: Ixxx..' to the bottom on a separate line\n"]

def listed (id : String) : List Char :=
  "* ".toList ++ id.toList ++ (if isValid id.toList then " [VALID]" else " [INVALID]").toList

def multipleRejection (ids : List String) : Rejection :=
  .policyWith multiple [.ofError <| multiple ++ "\n\nHint: the following Change-Ids were found:\n" ++
    String.ofList (joinWith ['\n'] (ids.map listed)) ++ "\n"]

def hintMessage (reason commands : String) : Message :=
  .ofError <| reason ++ "\n\nHint: to automatically insert a Change-Id, install the hook:\n" ++
    commands ++ "\nand then amend the commit:\n  git commit --amend --no-edit\n" ++
    "Finally, push your changes again\n"

end ChangeId

structure ChangeIdPolicy where
  project : ProjectState
  user : User
  baseUrl : Option String
  hookCommand : Option String
  ssh : SshInfo
  change : Option Change

namespace ChangeIdPolicy

open ChangeId

/-- Rejects with the hint on the hook. Where no hint can be given the server is at fault. -/
def rejectWithHint (policy : ChangeIdPolicy) (world : Collaborators) (reason : String) :
    Check Unit := do
  match InstallHint.commands world.systemHost policy.hookCommand policy.ssh policy.baseUrl
      policy.user.userName with
  | .ok (commands, events) =>
    Check.perform (events.map .emitted)
    Check.reject (.policyWith reason [hintMessage reason commands])
  | .error fault =>
    Check.emit <| .ofMessage .error [("error", fault.message)]
      "cannot build commit-msg hook installation hint"
    Check.reject (.internal reason)

def check (policy : ChangeIdPolicy) (world : Collaborators) (candidate : Candidate) :
    Check Unit := do
  if !isExpected candidate.ref then return ()
  let commit := candidate.commit
  match commit.footerValues Footer.changeIdKey with
  | [] =>
    if inSubject commit.subject.toList then Check.reject (.policy missingSubject)
    else if hasMarkerLine commit.message.toList then Check.reject aboveFooterRejection
    else if policy.project.requireChangeId then policy.rejectWithHint world missing
  | [id] =>
    if !isValid id.toList || isPlaceholder (trim id.toList) then
      policy.rejectWithHint world malformed
    else if policy.change.any (fun change => change.key.toList != trim id.toList) then
      Check.reject (.policy mismatch)
  | ids => Check.reject (multipleRejection ids)

end ChangeIdPolicy

def hasChangeId (policy : ChangeIdPolicy) : Validator := .ofCheck "ChangeIdValidator" policy.check

end CommitAdmission
