import CommitAdmission.Assembly
import CommitAdmission.Json.Reader
import CommitAdmission.Memory
import CommitAdmission.Records

namespace CommitAdmission.DryRun

open Json Text

structure Push where
  ref : String
  branch : Option String
  oldId : Option ObjectId
  project : ProjectState
  commit : Commit
  user : User
  granted : List Permission
  banned : List ObjectId
  changedPaths : Option (List String)
  change : Option Change
  patchSet : Option PatchSetId
  ssh : SshInfo
  skipValidation : Bool
  configs : TextMap ProjectConfig

instance : Decode Push where
  decode? value := do
    let fields ← value.record?
      ["ref_name", "branch", "old_id", "project", "commit", "user", "granted", "banned",
       "changed_paths", "change", "patch_set", "ssh_info", "skip_validation", "project_configs"]
    return {
      ref := ← fields.required "ref_name"
      branch := ← fields.withDefault "branch" none
      oldId := ← fields.withDefault "old_id" none
      project := ← fields.required "project"
      commit := ← fields.required "commit"
      user := ← fields.required "user"
      granted := ← fields.withDefault "granted" []
      banned := ← fields.withDefault "banned" []
      changedPaths := ← fields.withDefault "changed_paths" none
      change := ← fields.withDefault "change" none
      patchSet := ← fields.withDefault "patch_set" none
      ssh := ← fields.withDefault "ssh_info" SshInfo.none
      skipValidation := ← fields.withDefault "skip_validation" false
      configs := ← fields.withDefault "project_configs" .empty }

namespace Push

def parse? (document : String) : Option Push := do decode? (← Json.parse? document)

/-- The branch that a ref leads to: a push for review names its destination, with or without the
space of branches. -/
def destination (ref : String) : String :=
  match after? RefName.reviewSpace.toList ref.toList with
  | none => ref
  | some rest =>
    if startsWith "refs/".toList rest then String.ofList rest
    else RefName.headsSpace ++ String.ofList rest

def branchOf (push : Push) : Branch :=
  ⟨push.project.name, push.branch.getD (destination push.ref)⟩

def received (push : Push) : ReceivedCommit :=
  ⟨⟨push.ref, push.oldId.getD .zero, push.commit.id⟩, push.branchOf, push.commit, push.user⟩

def request (push : Push) : Request where
  branch := push.branchOf
  user := push.user
  ssh := push.ssh
  change := push.change
  skipValidation := push.skipValidation

/-- A configuration stands under a key that is no object id. -/
structure InvalidRevision where
  revision : String
  deriving DecidableEq, Repr

def addConfigs (memory : Memory) : List (String × ProjectConfig) → Except InvalidRevision Memory
  | [] => .ok memory
  | (revision, config) :: rest =>
    match ObjectId.parse? revision with
    | none => .error ⟨revision⟩
    | some id => addConfigs (memory.addConfig id config) rest

/-- The collaborators that a description asks for. Without changed paths the diff is unavailable. -/
def memory (systemHost : String) (push : Push) : Except InvalidRevision Memory := do
  let memory ← addConfigs ((Memory.empty systemHost).addProject push.project) push.configs.entries
  let memory := push.granted.foldl Memory.grant memory
  let memory := push.banned.foldl Memory.ban memory
  return match push.changedPaths with
    | none => memory
    | some paths => memory.addDiff push.commit.id (paths.map ChangedFile.modified)

end Push

end CommitAdmission.DryRun
