import CommitAdmission.Check

namespace CommitAdmission

structure Validator where
  name : String
  /-- Whether the validator runs even for a user who asked to skip validation. -/
  validatesAll : Bool
  judge : Collaborators → Candidate → Check Info

namespace Validator

def outcome (world : Collaborators) (candidate : Candidate) (validator : Validator) :
    Except Rejection Info :=
  (validator.judge world candidate).outcome

def ofCheck (name : String) (check : Collaborators → Candidate → Check Unit) : Validator where
  name
  validatesAll := false
  judge world candidate := do
    check world candidate
    return Info.plain

/-- Passes over a validator if the user asked for that, unless it insists on validating. The wrapper
itself does not insist. -/
def skippable (skip : Bool) (validator : Validator) : Validator where
  name := validator.name
  validatesAll := false
  judge world candidate :=
    if skip && !validator.validatesAll then do
      Check.emit (.ofMessage .debug [("validator", validator.name)] "skipped by user")
      return Info.skipped
    else validator.judge world candidate

end Validator

/-- How a plugin comes to its outcome. Of the files that a commit changes it knows nothing, unless it
counts them. -/
inductive Deliberation
  | settled (outcome : Except Rejection Info)
  | counting (next : Except DiffFailure Nat → Deliberation)
  | saying (event : TraceEvent) (next : Deliberation)

namespace Deliberation

def conclude (candidate : Candidate) : Deliberation → Check Info
  | settled outcome => ⟨outcome, []⟩
  | counting next => do
    let count ← candidate.countChanged
    conclude candidate (next count)
  | saying event next => do
    Check.emit event
    conclude candidate next

def counts : Deliberation → Bool
  | settled _ => false
  | counting _ => true
  | saying _ next => next.counts

theorem acts_counting (candidate : Candidate) (next : Except DiffFailure Nat → Deliberation) :
    ((counting next).conclude candidate).acts =
      .countedFiles :: ((next candidate.fileCount).conclude candidate).acts := rfl

theorem acts_saying (candidate : Candidate) (event : TraceEvent) (next : Deliberation) :
    ((saying event next).conclude candidate).acts =
      .emitted event :: (next.conclude candidate).acts := rfl

theorem act_of_conclude (candidate : Candidate) (deliberation : Deliberation) :
    ∀ act ∈ (deliberation.conclude candidate).acts,
      act = .countedFiles ∨ ∃ event, act = .emitted event := by
  induction deliberation with
  | settled outcome => exact List.forall_mem_nil _
  | counting next ih =>
    rw [acts_counting, List.forall_mem_cons]
    exact ⟨.inl rfl, ih candidate.fileCount⟩
  | saying event next ih =>
    rw [acts_saying, List.forall_mem_cons]
    exact ⟨.inr ⟨event, rfl⟩, ih⟩

theorem counted_iff (candidate : Candidate) (deliberation : Deliberation) :
    .countedFiles ∈ (deliberation.conclude candidate).acts ↔ deliberation.counts = true := by
  induction deliberation with
  | settled outcome => exact ⟨fun member => (List.not_mem_nil member).elim, fun given => nomatch given⟩
  | counting next ih => exact ⟨fun _ => rfl, fun _ => List.mem_cons_self⟩
  | saying event next ih =>
    rw [acts_saying, List.mem_cons]
    exact ⟨fun given => ih.mp (given.resolve_left nofun), fun given => .inr (ih.mpr given)⟩

end Deliberation

/-- A validator from outside: it has no access to the server but for the number of files that a commit
changes. Its calls are traced under a tag. -/
structure Plugin where
  name : String
  validatesAll : Bool
  tag : Nat
  deliberate : ReceivedCommit → Deliberation

namespace Plugin

def decide (plugin : Plugin) (candidate : Candidate) : Except Rejection Info :=
  ((plugin.deliberate candidate.toReceivedCommit).conclude candidate).outcome

def validator (plugin : Plugin) : Validator where
  name := plugin.name
  validatesAll := plugin.validatesAll
  judge _ candidate := do
    Check.perform [.calledPlugin plugin.tag]
    (plugin.deliberate candidate.toReceivedCommit).conclude candidate

theorem acts_validator (plugin : Plugin) (world : Collaborators) (candidate : Candidate) :
    (plugin.validator.judge world candidate).acts =
      .calledPlugin plugin.tag ::
        ((plugin.deliberate candidate.toReceivedCommit).conclude candidate).acts := rfl

theorem filterMap_acts_validator {β : Type} {view : Act → Option β}
    (uncounted : view .countedFiles = none) (unsaid : ∀ event, view (.emitted event) = none)
    (plugin : Plugin) (world : Collaborators) (candidate : Candidate) :
    (plugin.validator.judge world candidate).acts.filterMap view =
      (view (.calledPlugin plugin.tag)).toList := by
  have unseen : ((plugin.deliberate candidate.toReceivedCommit).conclude
      candidate).acts.filterMap view = [] := by
    rw [List.filterMap_eq_nil_iff]
    intro act member
    rcases Deliberation.act_of_conclude _ _ act member with rfl | ⟨event, rfl⟩
    · exact uncounted
    · exact unsaid event
  rw [acts_validator, List.filterMap_cons, unseen]
  cases view (.calledPlugin plugin.tag) <;> rfl

theorem called (plugin : Plugin) (world : Collaborators) (candidate : Candidate) :
    (plugin.validator.judge world candidate).acts.filterMap Act.calledPlugin? = [plugin.tag] :=
  filterMap_acts_validator rfl (fun _ => rfl) plugin world candidate

def constant (name : String) (validatesAll : Bool) (tag : Nat) (outcome : Except Rejection Info) :
    Plugin :=
  ⟨name, validatesAll, tag, fun _ => .settled outcome⟩

end Plugin

end CommitAdmission
