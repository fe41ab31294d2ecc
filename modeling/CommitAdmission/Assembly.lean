import CommitAdmission.Chain
import CommitAdmission.Validator.ChangeId
import CommitAdmission.Validator.FileCount
import CommitAdmission.Validator.Gate
import CommitAdmission.Validator.Identity
import CommitAdmission.Validator.ProjectConfig

namespace CommitAdmission

structure Factory where
  settings : Settings
  plugins : List Plugin
  listeners : List Listener

structure Request where
  branch : Branch
  user : User
  ssh : SshInfo
  change : Option Change
  skipValidation : Bool
  deriving Repr

/-- Commits pushed by a client, commits made by the server, and commits that are merged already. -/
inductive Scenario
  | receive
  | server
  | merged
  deriving DecidableEq, Repr

def Scenario.name : Scenario → String
  | receive => "receive"
  | server => "gerrit"
  | merged => "merged"

def Scenario.named : List (String × Scenario) :=
  [Scenario.receive, .server, .merged].map fun scenario => (scenario.name, scenario)

inductive AssemblyFailure
  | projectNotFound (project : ProjectName)
  deriving DecidableEq, Repr

def AssemblyFailure.message : AssemblyFailure → String
  | projectNotFound project => "project not found in cache: " ++ project.name

namespace Factory

variable (factory : Factory) (request : Request) (project : ProjectState)

def fileCount : Validator := fileCountWithin factory.settings.maxFiles factory.settings.baseUrl

def author : Validator :=
  authorIsUploader request.branch.ref request.user factory.settings.baseUrl

def committer : Validator :=
  committerIsUploader request.branch.ref request.user factory.settings.baseUrl

def changeId : Validator :=
  hasChangeId
    { project
      user := request.user
      baseUrl := factory.settings.baseUrl
      hookCommand := factory.settings.hookCommand
      ssh := request.ssh
      change := request.change }

def config : Validator :=
  configIsValid request.branch request.user factory.settings.allUsers factory.settings.allProjects

def trailing : List Validator := [keepsGroups factory.settings.allUsers, labelsAreValid]

def leading : List Validator :=
  [uploadMerges request.branch.ref,
   projectIsActive project,
   serverMerges request.branch.ref factory.settings.serverPerson,
   factory.author request,
   factory.fileCount,
   factory.committer request,
   signedOff request.branch.ref request.user project,
   factory.changeId request project,
   factory.config request,
   isNotBanned]

def receiveValidators : List Validator :=
  factory.leading request project ++
  factory.plugins.map (fun plugin => plugin.validator.skippable request.skipValidation) ++
  factory.trailing

/-- Commits that the server makes for a user: neither the committer nor the index of banned commits
is checked, and plugins always run. -/
def serverValidators : List Validator :=
  [uploadMerges request.branch.ref,
   projectIsActive project,
   serverMerges request.branch.ref factory.settings.serverPerson,
   factory.author request,
   factory.fileCount,
   signedOff request.branch.ref request.user project,
   factory.changeId request project,
   factory.config request] ++
  factory.plugins.map Plugin.validator ++ factory.trailing

/-- Commits that are merged already: only what can be decided without changing the commit. -/
def mergedValidators : List Validator :=
  [uploadMerges request.branch.ref,
   projectIsActive project,
   factory.author request,
   factory.committer request]

def validators : Scenario → List Validator
  | .receive => factory.receiveValidators request project
  | .server => factory.serverValidators request project
  | .merged => factory.mergedValidators request project

def chain (scenario : Scenario) : Chain :=
  ⟨factory.validators request project scenario, factory.listeners⟩

/-- The chain for a scenario; the state of the project is taken when the chain is made. -/
def assemble (world : Collaborators) (scenario : Scenario) : Except AssemblyFailure Chain :=
  match world.project? request.branch.project with
  | none => .error (.projectNotFound request.branch.project)
  | some project => .ok (factory.chain request project scenario)

end Factory

end CommitAdmission
