import CommitAdmission.Collaborators
import CommitAdmission.Text.Decimal

namespace CommitAdmission

structure Memory where
  systemHost : String
  granted : List Permission
  permissionsFail : Bool
  projects : List (ProjectName × ProjectState)
  configs : List ((ProjectName × ObjectId) × Except ConfigFailure ProjectConfig)
  diffs : List (ObjectId × List ChangedFile)
  banned : List ObjectId
  bansFail : Bool

namespace Memory

def empty (systemHost : String) : Memory := ⟨systemHost, [], false, [], [], [], [], false⟩

def grant (memory : Memory) (permission : Permission) : Memory :=
  { memory with granted := permission :: memory.granted }

def addProject (memory : Memory) (state : ProjectState) : Memory :=
  { memory with projects := (state.name, state) :: memory.projects }

/-- A configuration is found under its own project. -/
def addConfig (memory : Memory) (revision : ObjectId) (config : ProjectConfig) : Memory :=
  { memory with configs := ((config.project, revision), .ok config) :: memory.configs }

def addConfigFailure (memory : Memory) (project : ProjectName) (revision : ObjectId)
    (failure : ConfigFailure) : Memory :=
  { memory with configs := ((project, revision), .error failure) :: memory.configs }

def addDiff (memory : Memory) (commit : ObjectId) (files : List ChangedFile) : Memory :=
  { memory with diffs := (commit, files) :: memory.diffs }

def addNewFiles (memory : Memory) (commit : ObjectId) (count : Nat) : Memory :=
  memory.addDiff commit <| (List.range count).map fun index =>
    .added ("file-" ++ Text.decimalText index)

def ban (memory : Memory) (commit : ObjectId) : Memory :=
  { memory with banned := commit :: memory.banned }

def isGranted (memory : Memory) (ref : String) (permission : Permission) :
    Except PermissionFailure Bool :=
  if memory.permissionsFail then
    .error ⟨"cannot evaluate " ++ permission.name ++ " on " ++ ref⟩
  else .ok (memory.granted.contains permission)

def loadConfig (memory : Memory) (project : ProjectName) (revision : ObjectId) :
    Except ConfigFailure ProjectConfig :=
  (memory.configs.lookup (project, revision)).getD <|
    .error (.unreadable ("no project.config for " ++ project.name ++ " at " ++ revision.name))

def changedFiles (memory : Memory) (commit : ObjectId) : Except DiffFailure (List ChangedFile) :=
  match memory.diffs.lookup commit with
  | some files => .ok files
  | none => .error ⟨"no diff for " ++ commit.name⟩

def isBanned (memory : Memory) (commit : ObjectId) : Except StorageFailure Bool :=
  if memory.bansFail then .error ⟨"reject-commits notes unreadable"⟩
  else .ok (memory.banned.contains commit)

def collaborators (memory : Memory) : Collaborators where
  systemHost := memory.systemHost
  isGranted := memory.isGranted
  project? project := memory.projects.lookup project
  loadConfig := memory.loadConfig
  changedFiles _ commit := memory.changedFiles commit
  isBanned := memory.isBanned
  checkCondition query := (CopyCondition.check query).mapError CopyCondition.Fault.message

end Memory

end CommitAdmission
