import CommitAdmission.Account
import CommitAdmission.Change
import CommitAdmission.Commit
import CommitAdmission.Failure

namespace CommitAdmission

structure ReceivedCommit where
  update : RefUpdate
  branch : Branch
  commit : Commit
  user : User

/-- A received commit together with the number of files that it changes: all that a validator may
look at. -/
structure Candidate extends ReceivedCommit where
  fileCount : Except DiffFailure Nat

/-- A received commit together with the number of files that it changes, once the diff has been
requested. -/
structure Dossier extends ReceivedCommit where
  fileCount? : Option (Except DiffFailure Nat)

namespace ReceivedCommit

def project (received : ReceivedCommit) : ProjectName := received.branch.project

def ref (received : ReceivedCommit) : String := received.update.ref

def dossier (received : ReceivedCommit) : Dossier := ⟨received, none⟩

/-- The files of a diff that are files of the tree. -/
def countFiles (files : List ChangedFile) : Nat :=
  (files.filter fun file => !RefName.isMagicPath (file.newPath.getD "")).length

end ReceivedCommit

end CommitAdmission
