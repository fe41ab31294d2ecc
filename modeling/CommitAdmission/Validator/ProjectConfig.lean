import CommitAdmission.Validator

namespace CommitAdmission

open Text

def invalidConfig : String := "invalid project configuration"

def invalidConfigWith (details : List String) : Rejection :=
  .policyWith invalidConfig <|
    ("Invalid project configuration:" :: details.map ("  " ++ ·)).map Message.ofError

/-- A pushed configuration must load, have no problems, and keep the project of the accounts below
the root project. -/
def configIsValid (branch : Branch) (user : User) (allUsers allProjects : ProjectName) : Validator :=
  .ofCheck "ConfigValidator" fun world candidate => do
    if branch.ref != RefName.projectConfig then return ()
    match world.loadConfig candidate.project candidate.update.newId with
    | .error failure =>
      Check.emit <| .ofMessage .error
        [("user", user.loggableName), ("revision", candidate.update.newId.name),
         ("project", candidate.project.name), ("error", failure.message)]
        "user tried to push an invalid project configuration"
      Check.reject (.policyWith invalidConfig (failure.userMessage?.toList.map Message.ofError))
    | .ok config =>
      Check.require config.problems.isEmpty (invalidConfigWith config.problems)
      Check.require (candidate.project != allUsers || config.parentOr allProjects == some allProjects)
        (invalidConfigWith [allUsers.name ++ " must inherit from " ++ allProjects.name])

/-- Flags that a copy condition replaces. They may stay where they are set. -/
def deprecatedFlags : List String :=
  ["copyAnyScore", "copyMinScore", "copyMaxScore", "copyAllScoresIfNoChange",
   "copyAllScoresIfNoCodeChange", "copyAllScoresOnMergeFirstParentUpdate",
   "copyAllScoresOnTrivialRebase", "copyValue"]

def conditionProblems (world : Collaborators) (label : Label) : List String :=
  match label.copyCondition with
  | none => []
  | some condition =>
    match world.checkCondition condition with
    | .ok () => []
    | .error fault => ["Cannot parse copy condition '" ++ condition ++ "' of label " ++ label.name ++
        ": " ++ fault]

def deprecatedProblem (label : Label) (flag : String) : String :=
  "Parameter 'label." ++ label.name ++ "." ++ flag ++ "' is deprecated and cannot be set, use 'label." ++
    label.name ++ ".copyCondition' instead."

def flagProblems (old : Option ProjectConfig) (label : Label) : List String :=
  let before := old.bind (·.label? label.name)
  (label.copyFlags.members.filter fun flag =>
    deprecatedFlags.contains flag && !before.any (·.copyFlags.contains flag)).map
      (deprecatedProblem label)

def labelProblems (world : Collaborators) (new : ProjectConfig) (old : Option ProjectConfig) :
    List String :=
  new.labels.flatMap fun label => conditionProblems world label ++ flagProblems old label

def previousConfig (world : Collaborators) (candidate : Candidate) :
    Check (Option ProjectConfig) := do
  if candidate.update.oldId.isZero then return none
  match world.loadConfig candidate.project candidate.update.oldId with
  | .ok config => return some config
  | .error failure =>
    Check.emit (.ofMessage .debug [("error", failure.message)] "previous project config not loadable")
    return none

/-- The labels of a pushed configuration must have copy conditions that can be read and set no
deprecated flag anew. A configuration that does not load is reported elsewhere. -/
def labelsAreValid : Validator :=
  .ofCheck "LabelConfigValidator" fun world candidate => do
    if candidate.branch.ref != RefName.projectConfig then return ()
    match world.loadConfig candidate.project candidate.update.newId with
    | .error _ => return ()
    | .ok new =>
      let old ← previousConfig world candidate
      let problems := labelProblems world new old
      Check.require problems.isEmpty
        (.policyWith invalidConfig (problems.map Message.ofError))

end CommitAdmission
