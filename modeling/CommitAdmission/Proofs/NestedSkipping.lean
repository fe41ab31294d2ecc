import CommitAdmission.Memory
import CommitAdmission.Validator

/-! Wrappers within wrappers. A wrapper asks the validator inside it whether it insists on validating,
and does not insist itself; so only the innermost wrapper heeds a validator that insists, and any
other wrapper that may skip passes over it. -/

namespace CommitAdmission

namespace Validator

variable (validator : Validator)

def passOver : Check Info := do
  Check.emit (.ofMessage .debug [("validator", validator.name)] "skipped by user")
  return Info.skipped

/-- A validator inside wrappers, which are given by whether they may skip, the innermost first. -/
def wrapped (validator : Validator) (flags : List Bool) : Validator :=
  flags.foldl (fun inner skip => inner.skippable skip) validator

theorem judge_skippable (skip : Bool) (world : Collaborators) (candidate : Candidate) :
    (validator.skippable skip).judge world candidate =
      if skip && !validator.validatesAll then validator.passOver
      else validator.judge world candidate := rfl

theorem skippable_skippable (yields : validator.validatesAll = false) (inner outer : Bool) :
    (validator.skippable inner).skippable outer = validator.skippable (inner || outer) := by
  cases inner <;> cases outer <;> simp [skippable, yields]

theorem skippable_false (yields : validator.validatesAll = false) :
    validator.skippable false = validator := by
  cases validator
  cases yields
  rfl

theorem wrapped_of_yields (yields : validator.validatesAll = false) (flags : List Bool) :
    validator.wrapped flags = validator.skippable (flags.any id) := by
  induction flags generalizing validator with
  | nil => exact (validator.skippable_false yields).symm
  | cons inner outer ih =>
    calc validator.wrapped (inner :: outer)
        = (validator.skippable inner).skippable (outer.any id) := ih (validator.skippable inner) rfl
      _ = validator.skippable ((inner :: outer).any id) := validator.skippable_skippable yields _ _

/-- The innermost wrapper does not insist, whatever is inside it, so all others are as one. -/
theorem wrapped_cons (inner : Bool) (outer : List Bool) :
    validator.wrapped (inner :: outer) = (validator.skippable inner).skippable (outer.any id) :=
  (validator.skippable inner).wrapped_of_yields rfl outer

theorem name_wrapped (flags : List Bool) : (validator.wrapped flags).name = validator.name := by
  cases flags with
  | nil => rfl
  | cons inner outer =>
    rw [wrapped_cons]
    rfl

/-- One wrapper that skips if any may does the same, but for a validator that insists inside an outer
wrapper that may skip. -/
theorem judge_wrapped (inner : Bool) (outer : List Bool) (world : Collaborators)
    (candidate : Candidate) :
    (validator.wrapped (inner :: outer)).judge world candidate =
      if validator.validatesAll && outer.any id then validator.passOver
      else (validator.skippable ((inner :: outer).any id)).judge world candidate := by
  cases insists : validator.validatesAll with
  | false =>
    rw [validator.wrapped_of_yields insists]
    rfl
  | true =>
    rw [wrapped_cons, judge_skippable, judge_skippable, judge_skippable, insists]
    cases outer.any id <;> simp [passOver, skippable]

end Validator

theorem Plugin.calls_wrapped (plugin : Plugin) (inner : Bool) (outer : List Bool)
    (world : Collaborators) (candidate : Candidate) :
    ((plugin.validator.wrapped (inner :: outer)).judge world candidate).acts.filterMap
        Act.calledPlugin? =
      if outer.any id || (inner && !plugin.validatesAll) then [] else [plugin.tag] := by
  have silent : plugin.validator.passOver.acts.filterMap Act.calledPlugin? = [] := rfl
  have insists : plugin.validator.validatesAll = plugin.validatesAll := rfl
  rw [Validator.judge_wrapped, Validator.judge_skippable, insists, List.any_cons, id]
  cases plugin.validatesAll <;> cases inner <;> cases outer.any id <;> simp [plugin.called, silent]

/-- Wrappers around a validator do what one does that skips if any of them may, with one exception: a
validator that insists on validating is passed over if any but the innermost may skip. -/
theorem wrappers_compose_unless_overruled (validator : Validator) (plugin : Plugin) (inner : Bool)
    (outer : List Bool) (world : Collaborators) (candidate : Candidate) :
    (validator.wrapped (inner :: outer)).name = validator.name ∧
    (validator.wrapped (inner :: outer)).judge world candidate =
      (if validator.validatesAll && outer.any id then validator.passOver
      else (validator.skippable ((inner :: outer).any id)).judge world candidate) ∧
    ((plugin.validator.wrapped (inner :: outer)).judge world candidate).acts.filterMap
        Act.calledPlugin? =
      (if outer.any id || (inner && !plugin.validatesAll) then [] else [plugin.tag]) := by
  refine ⟨validator.name_wrapped _, validator.judge_wrapped inner outer world candidate, ?_⟩
  exact plugin.calls_wrapped inner outer world candidate

/-- A plugin that insists on validating rejects in one wrapper that may skip, and is not called in two
of which the outer one may. -/
theorem insisting_plugin_is_passed_over :
    let world := (Memory.empty "localhost").collaborators
    let person : Person := ⟨"U", "u@x"⟩
    let candidate : Candidate :=
      (ReceivedCommit.dossier ⟨⟨"refs/heads/main", .zero, .zero⟩, ⟨⟨"p"⟩, "refs/heads/main"⟩,
        ⟨.zero, [], person, person, "Update"⟩, .ofAccount 1⟩).candidate world
    let mandatory := (Plugin.constant "Mandatory" true 7 (.error (.policy "no"))).validator
    let twice := (mandatory.skippable false).skippable true
    let once := mandatory.skippable (false || true)
    once.outcome world candidate = .error ⟨"no", [], .policy⟩ ∧
    (once.judge world candidate).acts.filterMap Act.calledPlugin? = [7] ∧
    twice.outcome world candidate = .ok ⟨.skippedByUser, .empty, []⟩ ∧
    (twice.judge world candidate).acts.filterMap Act.calledPlugin? = [] :=
  ⟨rfl, rfl, rfl, rfl⟩

end CommitAdmission
