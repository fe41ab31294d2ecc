import CommitAdmission.Account
import CommitAdmission.Change
import CommitAdmission.Commit
import CommitAdmission.Json.Record
import CommitAdmission.Outcome
import CommitAdmission.Project

namespace CommitAdmission

open Json Text

instance : Encode ObjectId := ⟨fun id => encode id.name⟩

instance : Decode ObjectId := ⟨fun value => (decode? value : Option String).bind ObjectId.parse?⟩

instance : Encode ProjectName := ⟨fun project => encode project.name⟩

instance : Decode ProjectName := ⟨fun value => (decode? value).map ProjectName.mk⟩

instance : Encode Branch where
  encode branch := .ofMembers [("project", encode branch.project), ("branch", encode branch.ref)]

instance : Decode Branch where
  decode? value := do
    let fields ← value.record? ["project", "branch"]
    return { project := ← fields.required "project", ref := ← fields.required "branch" }

def Lifecycle.name : Lifecycle → String
  | active => "active"
  | readOnly => "read_only"
  | hidden => "hidden"

def Lifecycle.named : List (String × Lifecycle) :=
  [Lifecycle.active, .readOnly, .hidden].map fun lifecycle => (lifecycle.name, lifecycle)

instance : Encode Lifecycle := ⟨fun lifecycle => encode lifecycle.name⟩

instance : Decode Lifecycle := ⟨variant? Lifecycle.named⟩

instance : Encode ProjectState where
  encode state := .ofMembers
    [("name", encode state.name), ("state", encode state.lifecycle),
     ("require_change_id", encode state.requireChangeId),
     ("use_signed_off_by", encode state.useSignedOffBy)]

instance : Decode ProjectState where
  decode? value := do
    let fields ← value.record? ["name", "state", "require_change_id", "use_signed_off_by"]
    return {
      name := ← fields.required "name"
      lifecycle := ← fields.withDefault "state" .active
      requireChangeId := ← fields.withDefault "require_change_id" false
      useSignedOffBy := ← fields.withDefault "use_signed_off_by" false }

instance : Encode Label where
  encode label := .ofMembers
    [("name", encode label.name), ("copy_condition", encode label.copyCondition),
     ("copy_flags", encode label.copyFlags)]

instance : Decode Label where
  decode? value := do
    let fields ← value.record? ["name", "copy_condition", "copy_flags"]
    return {
      name := ← fields.required "name"
      copyCondition := ← fields.withDefault "copy_condition" none
      copyFlags := ← fields.withDefault "copy_flags" .empty }

instance : Encode ProjectConfig where
  encode config := .ofMembers
    [("project", encode config.project), ("parent", encode config.parent),
     ("validation_errors", encode config.problems), ("labels", encode config.labels)]

instance : Decode ProjectConfig where
  decode? value := do
    let fields ← value.record? ["project", "parent", "validation_errors", "labels"]
    return {
      project := ← fields.required "project"
      parent := ← fields.withDefault "parent" none
      problems := ← fields.withDefault "validation_errors" []
      labels := ← fields.withDefault "labels" [] }

def FileChange.name : FileChange → String
  | added => "added"
  | modified => "modified"
  | deleted => "deleted"
  | renamed => "renamed"
  | copied => "copied"
  | rewritten => "rewrite"

def FileChange.named : List (String × FileChange) :=
  [FileChange.added, .modified, .deleted, .renamed, .copied, .rewritten].map fun change =>
    (change.name, change)

instance : Encode FileChange := ⟨fun change => encode change.name⟩

instance : Decode FileChange := ⟨variant? FileChange.named⟩

instance : Encode ChangedFile where
  encode file := .ofMembers
    [("change_type", encode file.change), ("old_path", encode file.oldPath),
     ("new_path", encode file.newPath)]

instance : Decode ChangedFile where
  decode? value := do
    let fields ← value.record? ["change_type", "old_path", "new_path"]
    return {
      change := ← fields.required "change_type"
      oldPath := ← fields.withDefault "old_path" none
      newPath := ← fields.withDefault "new_path" none }

def Permission.key : Permission → String
  | merge => "merge"
  | forgeAuthor => "forge_author"
  | forgeCommitter => "forge_committer"
  | forgeServer => "forge_server"

def Permission.named : List (String × Permission) :=
  [Permission.merge, .forgeAuthor, .forgeCommitter, .forgeServer].map fun permission =>
    (permission.key, permission)

instance : Encode Permission := ⟨fun permission => encode permission.key⟩

instance : Decode Permission := ⟨variant? Permission.named⟩

instance : Encode HostKey := ⟨fun key => .ofMembers [("host", encode key.host)]⟩

instance : Decode HostKey where
  decode? value := do
    let fields ← value.record? ["host"]
    return { host := ← fields.required "host" }

instance : Encode SshInfo := ⟨fun info => .ofMembers [("host_keys", encode info.hostKeys)]⟩

instance : Decode SshInfo where
  decode? value := do
    let fields ← value.record? ["host_keys"]
    return { hostKeys := ← fields.withDefault "host_keys" [] }

instance : Encode Change where
  encode change := .ofMembers
    [("number", encode change.number), ("key", encode change.key),
     ("project", encode change.project), ("dest", encode change.destination)]

instance : Decode Change where
  decode? value := do
    let fields ← value.record? ["number", "key", "project", "dest"]
    return {
      number := ← fields.required "number"
      key := ← fields.required "key"
      project := ← fields.required "project"
      destination := ← fields.required "dest" }

instance : Encode PatchSetId where
  encode patchSet := .ofMembers
    [("change", encode patchSet.change), ("number", encode patchSet.number)]

instance : Decode PatchSetId where
  decode? value := do
    let fields ← value.record? ["change", "number"]
    return { change := ← fields.required "change", number := ← fields.required "number" }

instance : Encode RefUpdate where
  encode update := .ofMembers
    [("ref_name", encode update.ref), ("old_id", encode update.oldId),
     ("new_id", encode update.newId)]

instance : Decode RefUpdate where
  decode? value := do
    let fields ← value.record? ["ref_name", "old_id", "new_id"]
    return {
      ref := ← fields.required "ref_name"
      oldId := ← fields.required "old_id"
      newId := ← fields.required "new_id" }

instance : Encode Person where
  encode person := .ofMembers [("name", encode person.name), ("email", encode person.email)]

instance : Decode Person where
  decode? value := do
    let fields ← value.record? ["name", "email"]
    return { name := ← fields.required "name", email := ← fields.required "email" }

instance : Encode Commit where
  encode commit := .ofMembers
    [("id", encode commit.id), ("parents", encode commit.parents),
     ("author", encode commit.author), ("committer", encode commit.committer),
     ("message", encode commit.message)]

instance : Decode Commit where
  decode? value := do
    let fields ← value.record? ["id", "parents", "author", "committer", "message"]
    return {
      id := ← fields.required "id"
      parents := ← fields.withDefault "parents" []
      author := ← fields.required "author"
      committer := ← fields.required "committer"
      message := ← fields.required "message" }

instance : Encode Footer where
  encode footer := .ofMembers [("key", encode footer.key), ("value", encode footer.value)]

instance : Decode Footer where
  decode? value := do
    let fields ← value.record? ["key", "value"]
    return { key := ← fields.required "key", value := ← fields.required "value" }

instance : Encode AccountId := ⟨fun account => encode account.number⟩

instance : Decode AccountId := ⟨fun value => (decode? value).map AccountId.mk⟩

instance : Encode User where
  encode user := .ofMembers
    [("account_id", encode user.account), ("user_name", encode user.userName),
     ("display_name", encode user.displayName), ("emails", encode user.emails)]

instance : Decode User where
  decode? value := do
    let fields ← value.record? ["account_id", "user_name", "display_name", "emails"]
    return {
      account := ← fields.required "account_id"
      userName := ← fields.withDefault "user_name" none
      displayName := ← fields.withDefault "display_name" none
      emails := ← fields.withDefault "emails" .empty }

def Severity.name : Severity → String
  | fatal => "FATAL"
  | error => "ERROR"
  | warning => "WARNING"
  | hint => "HINT"
  | other => "OTHER"

def Severity.named : List (String × Severity) :=
  [Severity.fatal, .error, .warning, .hint, .other].map fun severity => (severity.name, severity)

instance : Encode Severity := ⟨fun severity => encode severity.name⟩

instance : Decode Severity := ⟨variant? Severity.named⟩

instance : Encode Message where
  encode message := .ofMembers
    [("message", encode message.text), ("type", encode message.severity)]

instance : Decode Message where
  decode? value := do
    let fields ← value.record? ["message", "type"]
    return { text := ← fields.required "message", severity := ← fields.required "type" }

def Status.name : Status → String
  | passed => "passed"
  | skippedByUser => "skipped_by_user"

def Status.named : List (String × Status) :=
  [Status.passed, .skippedByUser].map fun status => (status.name, status)

instance : Encode Status := ⟨fun status => encode status.name⟩

instance : Decode Status := ⟨variant? Status.named⟩

/-- Metadata and messages are left out where there are none. -/
instance : Encode Info where
  encode info := .ofMembers <|
    [("status", encode info.status)] ++
    (if info.metadata.isEmpty then [] else [("metadata", encode info.metadata)]) ++
    (if info.messages.isEmpty then [] else [("messages", encode info.messages)])

instance : Decode Info where
  decode? value := do
    let fields ← value.record? ["status", "metadata", "messages"]
    return {
      status := ← fields.required "status"
      metadata := ← fields.withDefault "metadata" .empty
      messages := ← fields.withDefault "messages" [] }

def RejectionKind.name : RejectionKind → String
  | policy => "policy"
  | internal => "internal"

def RejectionKind.named : List (String × RejectionKind) :=
  [RejectionKind.policy, .internal].map fun kind => (kind.name, kind)

instance : Encode RejectionKind := ⟨fun kind => encode kind.name⟩

instance : Decode RejectionKind := ⟨variant? RejectionKind.named⟩

instance : Encode Rejection where
  encode rejection := .ofMembers
    [("reason", encode rejection.reason), ("messages", encode rejection.messages),
     ("kind", encode rejection.kind)]

instance : Decode Rejection where
  decode? value := do
    let fields ← value.record? ["reason", "messages", "kind"]
    return {
      reason := ← fields.required "reason"
      messages := ← fields.required "messages"
      kind := ← fields.required "kind" }

/-- Infos are an object with a member per validator; a repeated name gives a repeated member. -/
instance : Encode Infos where
  encode infos := .ofMembers (infos.entries.map fun entry => (entry.1, encode entry.2))

end CommitAdmission
