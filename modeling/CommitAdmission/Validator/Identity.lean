import CommitAdmission.Settings
import CommitAdmission.Validator

/-! Checks on who made a commit and who signed it off, and on merges: each can be overcome by a
permission. -/

namespace CommitAdmission

open Text

def uploadMerges (ref : String) : Validator :=
  .ofCheck "UploadMergesPermissionValidator" fun world candidate => do
    if candidate.commit.isMerge then
      let granted ← askPermission world ref .merge
      Check.require granted (.policy "you are not allowed to upload merges")

def serverMerges (ref : String) (server : Person) : Validator :=
  .ofCheck "AmendedGerritMergeCommitValidationListener" fun world candidate => do
    if candidate.commit.isMerge && candidate.commit.author == server then
      let granted ← askPermission world ref .forgeServer
      Check.require granted <| .policy <| "pushing merge commit " ++ candidate.commit.id.name ++ " by " ++
        server.email ++ " requires '" ++ Permission.forgeServer.name ++ "' permission"

inductive Role
  | author
  | committer
  deriving DecidableEq, Repr

namespace Role

def name : Role → String
  | author => "author"
  | committer => "committer"

def permission : Role → Permission
  | author => .forgeAuthor
  | committer => .forgeCommitter

def person : Role → Commit → Person
  | author, commit => commit.author
  | committer, commit => commit.committer

end Role

def unregisteredEmail (role : String) (person : Person) (user : User) (baseUrl : Option String) :
    Message :=
  .ofError <|
    "email address " ++ person.email ++
      " is not registered in your account, and you lack 'forge " ++ role ++ "' permission.\n" ++
    (if user.emails.isEmpty then "You have not registered any email addresses.\n"
     else "The following addresses are currently registered:\n" ++
       String.join (user.emails.members.map fun address => "   " ++ address ++ "\n")) ++
    (match baseUrl with
     | none => ""
     | some base => "To register an email address, visit:\n" ++
       Settings.pageUrl base "EmailAddresses" ++ "\n\n")

/-- A person in a commit must be the uploader, or the uploader must be allowed to use the names of
others. -/
def checkPerson (role : Role) (ref : String) (user : User) (baseUrl : Option String)
    (world : Collaborators) (candidate : Candidate) : Check Unit := do
  let person := role.person candidate.commit
  if user.hasEmail person.email then return ()
  let granted ← askPermission world ref role.permission
  Check.require granted <| .policyWith ("invalid " ++ role.name)
    [unregisteredEmail role.name person user baseUrl]

def authorIsUploader (ref : String) (user : User) (baseUrl : Option String) : Validator :=
  .ofCheck "AuthorUploaderValidator" (checkPerson .author ref user baseUrl)

def committerIsUploader (ref : String) (user : User) (baseUrl : Option String) : Validator :=
  .ofCheck "CommitterUploaderValidator" (checkPerson .committer ref user baseUrl)

def isSignedOff (commit : Commit) (user : User) : Bool :=
  ((commit.footers.filter (·.hasKey Footer.signedOffByKey)).filterMap Footer.email?).any fun email =>
    commit.author.email == email || commit.committer.email == email || user.hasEmail email

def signedOff (ref : String) (user : User) (project : ProjectState) : Validator :=
  .ofCheck "SignedOffByValidator" fun world candidate => do
    if project.useSignedOffBy && !isSignedOff candidate.commit user then
      let granted ← askPermission world ref .forgeCommitter
      Check.require granted
        (.policy "not Signed-off-by author/committer/uploader in message footer")

end CommitAdmission
