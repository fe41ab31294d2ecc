import CommitAdmission.Project

namespace CommitAdmission

structure PermissionFailure where
  detail : String
  deriving DecidableEq, Repr

def PermissionFailure.message (failure : PermissionFailure) : String :=
  "permission backend failure: " ++ failure.detail

inductive Refusal
  | denied (permission ref : String)
  | unknown (failure : PermissionFailure)
  deriving DecidableEq, Repr

def Refusal.message : Refusal → String
  | denied permission ref => "not permitted: " ++ permission ++ " on " ++ ref
  | unknown failure => failure.message

structure StorageFailure where
  detail : String
  deriving DecidableEq, Repr

def StorageFailure.message (failure : StorageFailure) : String :=
  "Storage read failed: " ++ failure.detail

inductive ConfigFailure
  | invalid (detail : String)
  | unreadable (detail : String)
  deriving DecidableEq, Repr

namespace ConfigFailure

def message : ConfigFailure → String
  | invalid detail => detail
  | unreadable detail => "config I/O failed: " ++ detail

/-- What the user may be told: the detail of a config that is invalid, where there is one. -/
def userMessage? : ConfigFailure → Option String
  | invalid detail => if detail.isEmpty then none else some detail
  | unreadable _ => none

end ConfigFailure

structure DiffFailure where
  detail : String
  deriving DecidableEq, Repr

def DiffFailure.message (failure : DiffFailure) : String :=
  "diff not available: " ++ failure.detail

end CommitAdmission
