import CommitAdmission.Collaborators
import CommitAdmission.Effect

/-! Checks: computations that pass with a value or reject the commit, and act either way. -/

namespace CommitAdmission

structure Check (α : Type) where
  outcome : Except Rejection α
  acts : List Act

namespace Check

variable {α β : Type}

def pass (value : α) : Check α := ⟨.ok value, []⟩

def reject (rejection : Rejection) : Check α := ⟨.error rejection, []⟩

def perform (acts : List Act) : Check Unit := ⟨.ok (), acts⟩

def emit (event : TraceEvent) : Check Unit := perform [.emitted event]

def andThen (check : Check α) (next : α → Check β) : Check β :=
  match check.outcome with
  | .error rejection => ⟨.error rejection, check.acts⟩
  | .ok value => ⟨(next value).outcome, check.acts ++ (next value).acts⟩

instance : Monad Check where
  pure := pass
  bind := andThen

def require (condition : Bool) (rejection : Rejection) : Check Unit :=
  if condition then pass () else reject rejection

@[simp] theorem outcome_pure (value : α) : (pure value : Check α).outcome = .ok value := rfl

@[simp] theorem outcome_reject (rejection : Rejection) :
    (reject rejection : Check α).outcome = .error rejection := rfl

@[simp] theorem outcome_perform (acts : List Act) : (perform acts).outcome = .ok () := rfl

@[simp] theorem outcome_emit (event : TraceEvent) : (emit event).outcome = .ok () := rfl

@[simp] theorem outcome_bind (check : Check α) (next : α → Check β) :
    (check >>= next).outcome = check.outcome.bind fun value => (next value).outcome := by
  change (check.andThen next).outcome = _
  unfold andThen
  cases check.outcome <;> rfl

@[simp] theorem outcome_require (condition : Bool) (rejection : Rejection) :
    (require condition rejection).outcome = if condition then .ok () else .error rejection := by
  cases condition <;> rfl

@[simp] theorem acts_pure (value : α) : (pure value : Check α).acts = [] := rfl

@[simp] theorem acts_reject (rejection : Rejection) : (reject rejection : Check α).acts = [] := rfl

@[simp] theorem acts_perform (acts : List Act) : (perform acts).acts = acts := rfl

@[simp] theorem acts_emit (event : TraceEvent) : (emit event).acts = [.emitted event] := rfl

@[simp] theorem acts_require (condition : Bool) (rejection : Rejection) :
    (require condition rejection).acts = [] := by
  cases condition <;> rfl

theorem acts_bind_of_ok {check : Check α} {value : α} (passes : check.outcome = .ok value)
    (next : α → Check β) : (check >>= next).acts = check.acts ++ (next value).acts := by
  change (check.andThen next).acts = _
  rw [andThen, passes]

theorem acts_bind_of_error {check : Check α} {rejection : Rejection}
    (rejects : check.outcome = .error rejection) (next : α → Check β) :
    (check >>= next).acts = check.acts := by
  change (check.andThen next).acts = _
  rw [andThen, rejects]

def ActsWithin (allowed : Act → Prop) (check : Check α) : Prop := ∀ act ∈ check.acts, allowed act

variable {allowed : Act → Prop}

theorem actsWithin_pure (value : α) : (pure value : Check α).ActsWithin allowed := by
  intro act member
  cases member

theorem actsWithin_reject (rejection : Rejection) :
    (reject rejection : Check α).ActsWithin allowed := by
  intro act member
  cases member

theorem actsWithin_perform {acts : List Act} (within : ∀ act ∈ acts, allowed act) :
    (perform acts).ActsWithin allowed := within

theorem actsWithin_require (condition : Bool) (rejection : Rejection) :
    (require condition rejection).ActsWithin allowed := by
  cases condition
  · exact actsWithin_reject rejection
  · exact actsWithin_pure ()

theorem ActsWithin.bind {check : Check α} {next : α → Check β} (first : check.ActsWithin allowed)
    (others : ∀ value, (next value).ActsWithin allowed) : (check >>= next).ActsWithin allowed := by
  change (check.andThen next).ActsWithin allowed
  unfold andThen
  split
  · exact first
  · intro act member
    rcases List.mem_append.mp member with own | later
    · exact first act own
    · exact others _ act later

structure Confined (allowed : Act → Prop) (allows : Rejection → Prop) (check : Check α) : Prop where
  acts : check.ActsWithin allowed
  rejections : ∀ rejection, check.outcome = .error rejection → allows rejection

variable {allows : Rejection → Prop}

theorem confined_pure (value : α) : (pure value : Check α).Confined allowed allows where
  acts := actsWithin_pure value
  rejections rejection rejects := by cases rejects

theorem confined_perform {acts : List Act} (within : ∀ act ∈ acts, allowed act) :
    (perform acts).Confined allowed allows where
  acts := actsWithin_perform within
  rejections rejection rejects := by cases rejects

theorem confined_reject {rejection : Rejection} (allowedRejection : allows rejection) :
    (reject rejection : Check α).Confined allowed allows where
  acts := actsWithin_reject rejection
  rejections other rejects := by
    cases rejects
    exact allowedRejection

theorem confined_require (condition : Bool) {rejection : Rejection}
    (allowedRejection : allows rejection) :
    (require condition rejection).Confined allowed allows := by
  cases condition
  · exact confined_reject allowedRejection
  · exact confined_pure ()

theorem Confined.bind {check : Check α} {next : α → Check β}
    (first : check.Confined allowed allows)
    (others : ∀ value, (next value).Confined allowed allows) :
    (check >>= next).Confined allowed allows where
  acts := first.acts.bind fun value => (others value).acts
  rejections rejection rejects := by
    rw [outcome_bind] at rejects
    cases outcome : check.outcome with
    | error own =>
      rw [outcome] at rejects
      cases rejects
      exact first.rejections rejection outcome
    | ok value =>
      rw [outcome] at rejects
      exact (others value).rejections rejection rejects

end Check

/-- Asks for a permission on a ref. Without an answer the commit is rejected, and only the trace
says why. -/
def askPermission (world : Collaborators) (ref : String) (permission : Permission) : Check Bool := do
  Check.perform [.askedPermission ref permission]
  match world.isGranted ref permission with
  | .ok granted => return granted
  | .error failure =>
    Check.emit <| .ofMessage .error [("permission", permission.name), ("error", failure.message)]
      "cannot check permission"
    Check.reject (.internal "internal auth error")

theorem outcome_askPermission (world : Collaborators) (ref : String) (permission : Permission) :
    (askPermission world ref permission).outcome =
      (world.isGranted ref permission).mapError fun _ => .internal "internal auth error" := by
  rw [askPermission, Check.outcome_bind, Check.outcome_perform]
  cases world.isGranted ref permission <;> rfl

def Candidate.countChanged (candidate : Candidate) : Check (Except DiffFailure Nat) := do
  Check.perform [.countedFiles]
  return candidate.fileCount

namespace Dossier

/-- The number of files that the commit changes: as it was learned, or else as the diff has it. -/
def countChanged (world : Collaborators) (dossier : Dossier) : Except DiffFailure Nat :=
  dossier.fileCount?.getD <|
    (world.changedFiles dossier.project dossier.commit.id).map ReceivedCommit.countFiles

def candidate (world : Collaborators) (dossier : Dossier) : Candidate :=
  ⟨dossier.toReceivedCommit, dossier.countChanged world⟩

def request (world : Collaborators) (dossier : Dossier) (effects : List Effect) : List Effect :=
  requestOnce (dossier.countChanged world) dossier.fileCount?.isSome effects

end Dossier

end CommitAdmission
