import CommitAdmission.Assembly

/-! The validators that the server brings along: they pass with nothing to report, and leave the
calling of plugins to the plugins. Most of them are routine: they do not ask for a permission
either. -/

namespace CommitAdmission

/-- What the server does itself: anything but calling a plugin. -/
def Act.IsOwn (act : Act) : Prop := act.calledPlugin? = none

/-- What takes neither a plugin nor the answer to a permission question. -/
def Act.IsRoutine : Act → Prop
  | .countedFiles | .measured _ | .emitted _ => True
  | .askedPermission _ _ | .calledPlugin _ => False

theorem Act.IsRoutine.isOwn {act : Act} (routine : act.IsRoutine) : act.IsOwn := by
  cases act with
  | calledPlugin tag => exact absurd routine id
  | _ => rfl

theorem Act.IsRoutine.unasking {act : Act} (routine : act.IsRoutine) :
    act.askedPermission? = none := by
  cases act with
  | askedPermission ref permission => exact absurd routine id
  | _ => rfl

theorem Check.ActsWithin.mono {α : Type} {check : Check α} {allowed other : Act → Prop}
    (within : check.ActsWithin allowed) (weaker : ∀ {act}, allowed act → other act) :
    check.ActsWithin other :=
  fun act member => weaker (within act member)

structure Validator.BuiltIn (validator : Validator) : Prop where
  plain : ∀ world candidate info, validator.outcome world candidate = .ok info → info = .plain
  own : ∀ world candidate, (validator.judge world candidate).ActsWithin Act.IsOwn

theorem Validator.outcome_ofCheck (name : String)
    (check : Collaborators → Candidate → Check Unit) (world : Collaborators)
    (candidate : Candidate) :
    (ofCheck name check).outcome world candidate =
      (check world candidate).outcome.map fun _ => Info.plain := by
  change (check world candidate >>= fun _ => pure Info.plain).outcome = _
  rw [Check.outcome_bind]
  cases (check world candidate).outcome <;> rfl

theorem Validator.ofCheck_rejects {check : Collaborators → Candidate → Check Unit}
    {world : Collaborators} {candidate : Candidate} {rejection : Rejection}
    (rejects : (check world candidate).outcome = .error rejection) (name : String) :
    (ofCheck name check).outcome world candidate = .error rejection := by
  rw [outcome_ofCheck, rejects]
  rfl

theorem Validator.ofCheck_passes {check : Collaborators → Candidate → Check Unit}
    {world : Collaborators} {candidate : Candidate}
    (passes : (check world candidate).outcome = .ok ()) (name : String) :
    (ofCheck name check).outcome world candidate = .ok .plain := by
  rw [outcome_ofCheck, passes]
  rfl

theorem Validator.plain_ofCheck {name : String} {check : Collaborators → Candidate → Check Unit}
    {world : Collaborators} {candidate : Candidate} {info : Info}
    (passes : (ofCheck name check).outcome world candidate = .ok info) : info = .plain := by
  rw [outcome_ofCheck] at passes
  cases outcome : (check world candidate).outcome with
  | error rejection =>
    rw [outcome] at passes
    cases passes
  | ok value =>
    rw [outcome] at passes
    exact (Except.ok.inj passes).symm

theorem Validator.builtIn_ofCheck (name : String) {check : Collaborators → Candidate → Check Unit}
    (own : ∀ world candidate, (check world candidate).ActsWithin Act.IsOwn) :
    (ofCheck name check).BuiltIn where
  plain _ _ _ passes := plain_ofCheck passes
  own world candidate := (own world candidate).bind fun _ => Check.actsWithin_pure _

theorem excused_of_policy {rejection : Rejection} {excuse : Prop}
    (policy : rejection.kind = .policy) (internal : rejection.kind = .internal) : excuse := by
  cases policy.symm.trans internal

/-- A check that asks for no permission, calls no plugin, and blames the server with an excuse only. -/
def Check.Routine {α : Type} (excuse : Prop) (check : Check α) : Prop :=
  check.Confined Act.IsRoutine fun rejection => rejection.kind = .internal → excuse

def Validator.Routine (excuse : Collaborators → Candidate → Prop) (validator : Validator) : Prop :=
  ∀ world candidate, (validator.judge world candidate).Routine (excuse world candidate)

theorem Validator.routine_ofCheck (name : String) {check : Collaborators → Candidate → Check Unit}
    {excuse : Collaborators → Candidate → Prop}
    (routine : ∀ world candidate, (check world candidate).Routine (excuse world candidate)) :
    (ofCheck name check).Routine excuse :=
  fun world candidate => (routine world candidate).bind fun _ => Check.confined_pure _

theorem Validator.Routine.builtIn {name : String} {check : Collaborators → Candidate → Check Unit}
    {excuse : Collaborators → Candidate → Prop} (routine : (ofCheck name check).Routine excuse) :
    (ofCheck name check).BuiltIn where
  plain _ _ _ passes := plain_ofCheck passes
  own world candidate := (routine world candidate).acts.mono Act.IsRoutine.isOwn

theorem Check.actsWithin_performOne {allowed : Act → Prop} {act : Act} (allows : allowed act) :
    (Check.perform [act]).ActsWithin allowed := by
  apply actsWithin_perform
  intro other member
  rw [List.mem_singleton.mp member]
  exact allows

namespace Check

variable {excuse : Prop}

theorem routine_require (condition : Bool) {rejection : Rejection}
    (policy : rejection.kind = .policy) : (require condition rejection).Routine excuse :=
  confined_require condition (excused_of_policy policy)

theorem routine_reject {α : Type} {rejection : Rejection} (policy : rejection.kind = .policy) :
    (reject rejection : Check α).Routine excuse :=
  confined_reject (excused_of_policy policy)

theorem routine_perform {acts : List Act} (routine : ∀ act ∈ acts, act.IsRoutine) :
    (perform acts).Routine excuse :=
  confined_perform routine

theorem routine_performOne {act : Act} (routine : act.IsRoutine) :
    (perform [act]).Routine excuse :=
  routine_perform (actsWithin_performOne routine)

theorem routine_emit (event : TraceEvent) : (emit event).Routine excuse :=
  routine_performOne trivial

theorem routine_emitAll (events : List TraceEvent) :
    (perform (events.map .emitted)).Routine excuse := by
  apply routine_perform
  intro act member
  obtain ⟨event, _, rfl⟩ := List.mem_map.mp member
  trivial

end Check

theorem own_askPermission (world : Collaborators) (ref : String) (permission : Permission) :
    (askPermission world ref permission).ActsWithin Act.IsOwn := by
  apply Check.ActsWithin.bind
  · exact Check.actsWithin_performOne rfl
  · intro _
    split
    · exact Check.actsWithin_pure _
    · apply Check.ActsWithin.bind
      · exact Check.actsWithin_performOne rfl
      · exact fun _ => Check.actsWithin_reject _

theorem own_demandPermission (world : Collaborators) (ref : String) (permission : Permission)
    (rejection : Rejection) :
    Check.ActsWithin Act.IsOwn
      (askPermission world ref permission >>= fun granted => Check.require granted rejection) :=
  (own_askPermission world ref permission).bind fun _ => Check.actsWithin_require _ _

theorem own_demandIf (condition : Bool) (world : Collaborators) (ref : String)
    (permission : Permission) (rejection : Rejection) :
    Check.ActsWithin Act.IsOwn
      (if condition = true then
        askPermission world ref permission >>= fun granted => Check.require granted rejection
      else pure ()) := by
  split
  · exact own_demandPermission _ _ _ _
  · exact Check.actsWithin_pure _

theorem builtIn_uploadMerges (ref : String) : (uploadMerges ref).BuiltIn := by
  apply Validator.builtIn_ofCheck
  intro world candidate
  exact own_demandIf _ _ _ _ _

theorem routine_projectIsActive (project : ProjectState) :
    (projectIsActive project).Routine fun _ _ => False := by
  apply Validator.routine_ofCheck
  intro world candidate
  exact Check.routine_require _ rfl

theorem builtIn_serverMerges (ref : String) (server : Person) :
    (serverMerges ref server).BuiltIn := by
  apply Validator.builtIn_ofCheck
  intro world candidate
  exact own_demandIf _ _ _ _ _

theorem own_checkPerson (role : Role) (ref : String) (user : User) (baseUrl : Option String)
    (world : Collaborators) (candidate : Candidate) :
    (checkPerson role ref user baseUrl world candidate).ActsWithin Act.IsOwn := by
  simp only [checkPerson]
  split
  · exact Check.actsWithin_pure _
  · exact own_demandPermission _ _ _ _

theorem routine_countChanged {excuse : Prop} (candidate : Candidate) :
    candidate.countChanged.Routine excuse := by
  apply Check.Confined.bind
  · exact Check.routine_performOne trivial
  · intro _
    exact Check.confined_pure _

theorem routine_fileCountWithin (maxFiles : UInt64) (baseUrl : Option String) :
    (fileCountWithin maxFiles baseUrl).Routine fun _ _ => False := by
  apply Validator.routine_ofCheck
  intro world candidate
  split
  · exact Check.confined_pure _
  · apply (routine_countChanged candidate).bind
    intro count
    split
    case h_1 =>
      split
      · exact Check.routine_emit _
      · exact Check.confined_pure _
    case h_2 =>
      apply Check.Confined.bind
      · exact Check.routine_require _ rfl
      · intro _
        split
        · apply Check.Confined.bind
          · exact Check.routine_emitAll _
          · intro _
            apply Check.Confined.bind
            · exact Check.routine_emit _
            · intro _
              exact Check.routine_performOne trivial
        · exact Check.confined_pure _

theorem builtIn_signedOff (ref : String) (user : User) (project : ProjectState) :
    (signedOff ref user project).BuiltIn := by
  apply Validator.builtIn_ofCheck
  intro world candidate
  exact own_demandIf _ _ _ _ _

namespace ChangeIdPolicy

/-- There is no way to give the hint on the hook. -/
def LacksHint (policy : ChangeIdPolicy) (world : Collaborators) : Prop :=
  ∃ fault, InstallHint.commands world.systemHost policy.hookCommand policy.ssh policy.baseUrl
    policy.user.userName = .error fault

theorem routine_rejectWithHint (policy : ChangeIdPolicy) (world : Collaborators)
    (reason : String) :
    (policy.rejectWithHint world reason).Routine (policy.LacksHint world) := by
  unfold rejectWithHint
  split
  · exact (Check.routine_emitAll _).bind fun _ => Check.routine_reject rfl
  · rename_i fault unavailable
    exact (Check.routine_emit _).bind fun _ => Check.confined_reject fun _ => ⟨fault, unavailable⟩

end ChangeIdPolicy

theorem routine_hasChangeId (policy : ChangeIdPolicy) :
    (hasChangeId policy).Routine fun world _ => policy.LacksHint world := by
  apply Validator.routine_ofCheck
  intro world candidate
  simp only [ChangeIdPolicy.check]
  split
  · exact Check.confined_pure _
  · split
    case h_1 =>
      split
      · exact Check.routine_reject rfl
      · split
        · exact Check.routine_reject rfl
        · split
          · exact policy.routine_rejectWithHint world _
          · exact Check.confined_pure _
    case h_2 =>
      split
      · exact policy.routine_rejectWithHint world _
      · split
        · exact Check.routine_reject rfl
        · exact Check.confined_pure _
    case h_3 => exact Check.routine_reject rfl

theorem routine_configIsValid (branch : Branch) (user : User)
    (allUsers allProjects : ProjectName) :
    (configIsValid branch user allUsers allProjects).Routine fun _ _ => False := by
  apply Validator.routine_ofCheck
  intro world candidate
  split
  · exact Check.confined_pure _
  · split
    · exact (Check.routine_emit _).bind fun _ => Check.routine_reject rfl
    · exact (Check.routine_require _ rfl).bind fun _ => Check.routine_require _ rfl

theorem routine_isNotBanned :
    isNotBanned.Routine fun world candidate =>
      ∃ failure, world.isBanned candidate.commit.id = .error failure := by
  apply Validator.routine_ofCheck
  intro world candidate
  simp only
  split
  · exact Check.routine_require _ rfl
  · rename_i failure unknown
    exact (Check.routine_emit _).bind fun _ => Check.confined_reject fun _ => ⟨failure, unknown⟩

theorem routine_keepsGroups (allUsers : ProjectName) :
    (keepsGroups allUsers).Routine fun _ _ => False := by
  apply Validator.routine_ofCheck
  intro world candidate
  exact Check.routine_require _ rfl

theorem routine_previousConfig {excuse : Prop} (world : Collaborators) (candidate : Candidate) :
    (previousConfig world candidate).Routine excuse := by
  unfold previousConfig
  split
  · exact Check.confined_pure _
  · split
    · exact Check.confined_pure _
    · exact (Check.routine_emit _).bind fun _ => Check.confined_pure _

theorem routine_labelsAreValid : labelsAreValid.Routine fun _ _ => False := by
  apply Validator.routine_ofCheck
  intro world candidate
  split
  · exact Check.confined_pure _
  · split
    · exact Check.confined_pure _
    · exact (routine_previousConfig world candidate).bind fun _ => Check.routine_require _ rfl

namespace Factory

variable (factory : Factory) (request : Request) (project : ProjectState)

theorem builtIn_leading : ∀ validator ∈ factory.leading request project, validator.BuiltIn := by
  intro validator member
  simp only [leading, List.mem_cons, List.not_mem_nil, or_false] at member
  rcases member with rfl | rfl | rfl | rfl | rfl | rfl | rfl | rfl | rfl | rfl
  · exact builtIn_uploadMerges _
  · exact (routine_projectIsActive _).builtIn
  · exact builtIn_serverMerges _ _
  · exact Validator.builtIn_ofCheck _ (own_checkPerson _ _ _ _)
  · exact (routine_fileCountWithin _ _).builtIn
  · exact Validator.builtIn_ofCheck _ (own_checkPerson _ _ _ _)
  · exact builtIn_signedOff _ _ _
  · exact (routine_hasChangeId _).builtIn
  · exact (routine_configIsValid _ _ _ _).builtIn
  · exact routine_isNotBanned.builtIn

theorem builtIn_trailing : ∀ validator ∈ factory.trailing, validator.BuiltIn := by
  intro validator member
  simp only [trailing, List.mem_cons, List.not_mem_nil, or_false] at member
  rcases member with rfl | rfl
  · exact (routine_keepsGroups _).builtIn
  · exact routine_labelsAreValid.builtIn

theorem mem_leading_of_mem_merged {validator : Validator}
    (member : validator ∈ factory.mergedValidators request project) :
    validator ∈ factory.leading request project := by
  simp only [mergedValidators, List.mem_cons, List.not_mem_nil, or_false] at member
  rcases member with rfl | rfl | rfl | rfl <;> simp [leading]

theorem forall_validators {holds : Validator → Prop}
    (around : ∀ validator ∈ factory.leading request project ++ factory.trailing, holds validator)
    (plugins : ∀ plugin ∈ factory.plugins, holds plugin.validator ∧
      holds (plugin.validator.skippable request.skipValidation)) (scenario : Scenario) :
    ∀ validator ∈ factory.validators request project scenario, holds validator := by
  rw [List.forall_mem_append] at around
  obtain ⟨leads, trails⟩ := around
  cases scenario with
  | receive =>
    simp only [validators, receiveValidators, List.forall_mem_append, List.forall_mem_map]
    exact ⟨⟨leads, fun plugin listed => (plugins plugin listed).2⟩, trails⟩
  | server =>
    simp only [validators, serverValidators, List.forall_mem_append, List.forall_mem_map]
    refine ⟨⟨?_, fun plugin listed => (plugins plugin listed).1⟩, trails⟩
    intro validator member
    apply leads
    simp only [List.mem_cons, List.not_mem_nil, or_false] at member
    rcases member with rfl | rfl | rfl | rfl | rfl | rfl | rfl | rfl <;> simp [leading]
  | merged =>
    intro validator member
    exact leads validator (factory.mem_leading_of_mem_merged request project member)

end Factory

end CommitAdmission
