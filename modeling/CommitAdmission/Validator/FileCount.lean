import CommitAdmission.ServerHost
import CommitAdmission.Text.Decimal
import CommitAdmission.Validator

namespace CommitAdmission

open Text

/-- Changes with more files are reported even where they are allowed. -/
def manyFiles : Nat := 10000

/-- Whether the number of files of a push is limited: only pushes for review and of patch sets are. -/
def limitsFiles (ref : String) : Bool :=
  RefName.isUnder RefName.reviewSpace ref || RefName.isUnder RefName.changesSpace ref

def fileCountWithin (maxFiles : UInt64) (baseUrl : Option String) : Validator :=
  .ofCheck "FileCountValidator" fun world candidate => do
    if !limitsFiles candidate.ref then return ()
    match ← candidate.countChanged with
    | .error failure =>
      if !RefName.isUnder RefName.changesSpace candidate.ref then
        Check.emit <| .ofMessage .warn
          [("commit", candidate.commit.id.name), ("error", failure.message)]
          "failed to validate file count for commit"
    | .ok files =>
      Check.require (files ≤ maxFiles.toNat) <| .policy <|
        "Exceeding maximum number of files per change (" ++ decimalText files ++ " > " ++
          decimalText maxFiles.toNat ++ ")"
      if manyFiles < files then
        let (host, events) := serverHost world.systemHost baseUrl
        Check.perform (events.map .emitted)
        Check.emit ⟨.warn, [],
          [("files", .count files), ("host", .text host), ("project", .text candidate.project.name),
           ("ref_name", .text candidate.ref), ("message", .text "change with many files")]⟩
        Check.perform [.measured ⟨"validation/file_count",
          [("file_count", decimalText files), ("host_repo", host ++ "/" ++ candidate.project.name)]⟩]

end CommitAdmission
