import CommitAdmission.CopyCondition
import CommitAdmission.Failure

namespace CommitAdmission

structure Collaborators where
  systemHost : String
  isGranted : (ref : String) → Permission → Except PermissionFailure Bool
  project? : ProjectName → Option ProjectState
  loadConfig : ProjectName → ObjectId → Except ConfigFailure ProjectConfig
  changedFiles : ProjectName → ObjectId → Except DiffFailure (List ChangedFile)
  isBanned : ObjectId → Except StorageFailure Bool
  checkCondition : String → Except String Unit

def Collaborators.insist (world : Collaborators) (ref : String) (permission : Permission) :
    Except Refusal Unit :=
  match world.isGranted ref permission with
  | .error failure => .error (.unknown failure)
  | .ok true => .ok ()
  | .ok false => .error (.denied permission.describe ref)

end CommitAdmission
