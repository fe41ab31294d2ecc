import CommitAdmission.Chain
import CommitAdmission.Text.Decimal
import CommitAdmission.Text.Quoted

namespace CommitAdmission

open Text

def describeRecord (name : String) (parts : List (String × String)) (complete : Bool) : String :=
  name ++ " \x7b " ++ String.intercalate ", " (parts.map fun part => part.1 ++ ": " ++ part.2) ++
    (if complete then " \x7d" else ", .. \x7d")

def describeWrapped (name content : String) : String := name ++ "(" ++ content ++ ")"

def ObjectId.describe (id : ObjectId) : String := describeWrapped "ObjectId" (quotedText id.name)

def ProjectName.describe (project : ProjectName) : String :=
  describeWrapped "ProjectName" (quotedText project.name)

def RefUpdate.describe (update : RefUpdate) : String :=
  describeRecord "ReceiveCommand"
    [("ref_name", quotedText update.ref), ("old_id", update.oldId.describe),
     ("new_id", update.newId.describe)] true

def Branch.describe (branch : Branch) : String :=
  describeRecord "BranchNameKey"
    [("project", branch.project.describe), ("branch", quotedText branch.ref)] true

def ReceivedCommit.describe (received : ReceivedCommit) : String :=
  describeRecord "CommitReceivedEvent"
    [("command", received.update.describe), ("project", received.project.describe),
     ("branch", received.branch.describe), ("commit", received.commit.id.describe),
     ("user", describeWrapped "AccountId" (decimalText received.user.account.number.toNat))] false

def Chain.describe (chain : Chain) : String :=
  describeRecord "CommitValidators"
    [("validators", "[" ++ String.intercalate ", " (chain.names.map quotedText) ++ "]"),
     ("listeners", decimalText chain.listeners.length)] true

end CommitAdmission
