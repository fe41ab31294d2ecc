import CommitAdmission.ObjectId
import CommitAdmission.Text.Ordered

namespace CommitAdmission

open Text

structure ProjectName where
  name : String
  deriving DecidableEq, Repr

structure Branch where
  project : ProjectName
  ref : String
  deriving DecidableEq, Repr

inductive Lifecycle
  | active
  | readOnly
  | hidden
  deriving DecidableEq, Repr

structure ProjectState where
  name : ProjectName
  lifecycle : Lifecycle
  requireChangeId : Bool
  useSignedOffBy : Bool
  deriving DecidableEq, Repr

namespace ProjectState

def activeProject (name : ProjectName) : ProjectState := ⟨name, .active, false, false⟩

def permitsWrite (state : ProjectState) : Bool := state.lifecycle == .active

end ProjectState

structure Label where
  name : String
  copyCondition : Option String
  copyFlags : TextSet
  deriving DecidableEq, Repr

structure ProjectConfig where
  project : ProjectName
  parent : Option ProjectName
  problems : List String
  labels : List Label
  deriving DecidableEq, Repr

namespace ProjectConfig

def plain (project : ProjectName) : ProjectConfig := ⟨project, none, [], []⟩

/-- The configured parent, or else the root project; the root project itself has none. -/
def parentOr (config : ProjectConfig) (root : ProjectName) : Option ProjectName :=
  match config.parent with
  | some parent => some parent
  | none => if config.project = root then none else some root

def label? (config : ProjectConfig) (name : String) : Option Label :=
  config.labels.find? (·.name == name)

end ProjectConfig

inductive FileChange
  | added
  | modified
  | deleted
  | renamed
  | copied
  | rewritten
  deriving DecidableEq, Repr

structure ChangedFile where
  change : FileChange
  oldPath : Option String
  newPath : Option String
  deriving DecidableEq, Repr

namespace ChangedFile

def added (path : String) : ChangedFile := ⟨.added, none, some path⟩

def modified (path : String) : ChangedFile := ⟨.modified, some path, some path⟩

end ChangedFile

inductive Permission
  | merge
  | forgeAuthor
  | forgeCommitter
  | forgeServer
  deriving DecidableEq, Repr

namespace Permission

def name : Permission → String
  | merge => "MERGE"
  | forgeAuthor => "FORGE_AUTHOR"
  | forgeCommitter => "FORGE_COMMITTER"
  | forgeServer => "FORGE_SERVER"

def describe : Permission → String
  | merge => "merge"
  | forgeAuthor => "forge author"
  | forgeCommitter => "forge committer"
  | forgeServer => "forge server"

end Permission

/-- A host that the SSH server answers for: a name, a name with a port, or a star with a port. -/
structure HostKey where
  host : String
  deriving DecidableEq, Repr

/-- The SSH hosts of the server, in order; there is none when SSH is off. -/
structure SshInfo where
  hostKeys : List HostKey
  deriving DecidableEq, Repr

namespace SshInfo

def none : SshInfo := ⟨[]⟩

def ofHost (host : String) : SshInfo := ⟨[⟨host⟩]⟩

end SshInfo

end CommitAdmission
