import CommitAdmission.Validator

namespace CommitAdmission

def projectIsActive (project : ProjectState) : Validator :=
  .ofCheck "ProjectStateValidationListener" fun _ _ =>
    Check.require project.permitsWrite (.policy "project state does not permit write")

def isNotBanned : Validator :=
  .ofCheck "BannedCommitsValidator" fun world candidate => do
    let id := candidate.commit.id
    match world.isBanned id with
    | .ok banned => Check.require (!banned) (.policy ("contains banned commit " ++ id.name))
    | .error failure =>
      Check.emit <| .ofMessage .error [("commit", id.name), ("error", failure.message)]
        "cannot read banned commits"
      Check.reject (.internal "error checking banned commits")

/-- Groups live in the project of the accounts; their refs can be changed by review only. -/
def keepsGroups (allUsers : ProjectName) : Validator :=
  .ofCheck "GroupCommitValidator" fun _ candidate =>
    Check.require
      (candidate.project != allUsers || RefName.isMagic candidate.ref || !RefName.isGroup candidate.ref)
      (.policy "group update not allowed")

end CommitAdmission
