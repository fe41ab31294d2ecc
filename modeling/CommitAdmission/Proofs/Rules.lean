import CommitAdmission.Assembly

namespace CommitAdmission

open Text

structure Rule where
  holds : Prop
  faults : String → Prop

variable (world : Collaborators) (factory : Factory) (request : Request) (project : ProjectState)
  (received : ReceivedCommit)

inductive Refused (permission : Permission) (text : String) : String → Prop
  | denied : world.isGranted request.branch.ref permission = .ok false →
      Refused permission text text
  | unknown {failure : PermissionFailure} :
      world.isGranted request.branch.ref permission = .error failure →
      Refused permission text "internal auth error"

def Rule.orGranted (condition : Prop) (permission : Permission) (text : String) : Rule where
  holds := condition ∨ world.isGranted request.branch.ref permission = .ok true
  faults := Refused world request permission text

def mergeRule : Rule :=
  .orGranted world request (received.commit.parents.length ≤ 1) .merge
    "you are not allowed to upload merges"

def stateRule : Rule where
  holds := project.lifecycle = .active
  faults reason := reason = "project state does not permit write"

def serverMergeRule : Rule :=
  let server := factory.settings.serverPerson
  .orGranted world request
    (¬ (1 < received.commit.parents.length ∧ received.commit.author.name = server.name ∧
      received.commit.author.email = server.email))
    .forgeServer
    ("pushing merge commit " ++ received.commit.id.name ++ " by " ++ server.email ++
      " requires 'FORGE_SERVER' permission")

def authorRule : Rule :=
  .orGranted world request (received.commit.author.email ∈ request.user.emails.members) .forgeAuthor
    "invalid author"

/-- The entries of a diff but for those that name no file. -/
def treeFiles (files : List ChangedFile) : Nat :=
  files.countP fun file => decide (file.newPath.getD "" ∉ RefName.magicPaths)

def fileCountRule : Rule where
  holds := ¬ ("refs/for/".toList <+: received.ref.toList ∨
      "refs/changes/".toList <+: received.ref.toList) ∨
    ∀ files, world.changedFiles received.project received.commit.id = .ok files →
      treeFiles files ≤ factory.settings.maxFiles.toNat
  faults reason := ∃ files, world.changedFiles received.project received.commit.id = .ok files ∧
    reason = "Exceeding maximum number of files per change (" ++ decimalText (treeFiles files) ++
      " > " ++ decimalText factory.settings.maxFiles.toNat ++ ")"

def committerRule : Rule :=
  .orGranted world request (received.commit.committer.email ∈ request.user.emails.members)
    .forgeCommitter "invalid committer"

def IsEntitled (commit : Commit) (user : User) (address : String) : Prop :=
  address = commit.author.email ∨ address = commit.committer.email ∨
    address ∈ user.emails.members

def SignsOff (footer : Footer) : Prop :=
  footer.hasKey "Signed-off-by" = true ∧
    ∃ email, footer.email? = some email ∧
      (email = received.commit.author.email ∨ email = received.commit.committer.email ∨
        email ∈ request.user.emails.members)

def signOffRule : Rule :=
  .orGranted world request
    (project.useSignedOffBy = false ∨ ∃ footer ∈ received.commit.footers,
      SignsOff request received footer)
    .forgeCommitter "not Signed-off-by author/committer/uploader in message footer"

def IsChangeId (id : List Char) : Prop :=
  ∃ digits, id = 'I' :: digits ∧ digits.length = 40 ∧ ∀ digit ∈ digits, isLowerHex digit = true

def zeroChangeId : List Char := 'I' :: List.replicate 40 '0'

def HasChangeIdAsSubject : Prop :=
  ∃ id, received.commit.subject.toList = "Change-Id:".toList ++ id ∧ IsChangeId (trim id)

def HasChangeIdLine : Prop := "\nChange-Id:".toList <:+: received.commit.message.toList

inductive ChangeIdInOrder : Prop
  | notReviewed : ¬ "refs/for/".toList <+: received.ref.toList →
      RefName.newPatchSetChange? received.ref = none → ChangeIdInOrder
  | notRequired : received.commit.footerValues "Change-Id" = [] → ¬ HasChangeIdAsSubject received →
      ¬ HasChangeIdLine received → project.requireChangeId = false → ChangeIdInOrder
  | single {id : String} : received.commit.footerValues "Change-Id" = [id] →
      IsChangeId (trim id.toList) → trim id.toList ≠ zeroChangeId →
      (∀ change, request.change = some change → change.key.toList = trim id.toList) →
      ChangeIdInOrder

inductive ChangeIdFault : String → Prop
  | noSubject : received.commit.footerValues "Change-Id" = [] → HasChangeIdAsSubject received →
      ChangeIdFault "missing subject; Change-Id must be in message footer"
  | misplaced : received.commit.footerValues "Change-Id" = [] → ¬ HasChangeIdAsSubject received →
      HasChangeIdLine received → ChangeIdFault "Change-Id must be in message footer"
  | missing : received.commit.footerValues "Change-Id" = [] → ¬ HasChangeIdAsSubject received →
      ¬ HasChangeIdLine received → project.requireChangeId = true →
      ChangeIdFault "missing Change-Id in message footer"
  | malformed {id : String} : received.commit.footerValues "Change-Id" = [id] →
      ¬ (IsChangeId (trim id.toList) ∧ trim id.toList ≠ zeroChangeId) →
      ChangeIdFault "invalid Change-Id line format in message footer"
  | mismatch {id : String} {change : Change} :
      received.commit.footerValues "Change-Id" = [id] → IsChangeId (trim id.toList) →
      trim id.toList ≠ zeroChangeId → request.change = some change →
      change.key.toList ≠ trim id.toList →
      ChangeIdFault "Change-Id in message footer does not match Change-Id of target change"
  | multiple : 2 ≤ (received.commit.footerValues "Change-Id").length →
      ChangeIdFault "multiple Change-Id lines in message footer"

def changeIdRule : Rule where
  holds := ChangeIdInOrder request project received
  faults := ChangeIdFault request project received

def configRule : Rule where
  holds := received.branch.ref ≠ "refs/meta/config" ∨
    ∃ config, world.loadConfig received.project received.update.newId = .ok config ∧
      config.problems = [] ∧ (received.project = factory.settings.allUsers →
        config.parentOr factory.settings.allProjects = some factory.settings.allProjects)
  faults reason := reason = "invalid project configuration"

def banRule : Rule where
  holds := world.isBanned received.commit.id = .ok false
  faults reason :=
    (world.isBanned received.commit.id = .ok true ∧
      reason = "contains banned commit " ++ received.commit.id.name) ∨
    ((∃ failure, world.isBanned received.commit.id = .error failure) ∧
      reason = "error checking banned commits")

def groupRule : Rule where
  holds := received.project = factory.settings.allUsers →
    "refs/for/".toList <+: received.ref.toList ∨
    ¬ ("refs/groups/".toList <+: received.ref.toList ∨
      "refs/deleted-groups/".toList <+: received.ref.toList ∨
      received.ref = "refs/meta/group-names")
  faults reason := reason = "group update not allowed"

def HadFlag (label flag : String) : Prop :=
  received.update.oldId ≠ ObjectId.zero ∧
    ∃ old before, world.loadConfig received.project received.update.oldId = .ok old ∧
      old.label? label = some before ∧ flag ∈ before.copyFlags.members

def labelRule : Rule where
  holds := received.branch.ref ≠ "refs/meta/config" ∨
    ∀ config, world.loadConfig received.project received.update.newId = .ok config →
      ∀ label ∈ config.labels,
        (∀ condition, label.copyCondition = some condition →
          world.checkCondition condition = .ok ()) ∧
        ∀ flag ∈ label.copyFlags.members, flag ∈ deprecatedFlags →
          HadFlag world received label.name flag
  faults reason := reason = "invalid project configuration"

def receiveRules : List Rule :=
  [mergeRule world request received,
   stateRule project,
   serverMergeRule world factory request received,
   authorRule world request received,
   fileCountRule world factory received,
   committerRule world request received,
   signOffRule world request project received,
   changeIdRule request project received,
   configRule world factory received,
   banRule world received,
   groupRule factory received,
   labelRule world received]

end CommitAdmission
