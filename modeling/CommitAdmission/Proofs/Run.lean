import CommitAdmission.Chain

namespace CommitAdmission

variable (world : Collaborators) (candidate : Candidate)

def Passed (validators : List Validator) (infos : List Info) : Prop :=
  validators.map (Validator.outcome world candidate) = infos.map .ok

structure FirstRejection (before : List Validator) (infos : List Info) (validator : Validator)
    (rejection : Rejection) : Prop where
  passed : Passed world candidate before infos
  rejected : validator.outcome world candidate = .error rejection

variable {world candidate}

theorem Passed.cons {validator : Validator} {info : Info} {validators : List Validator}
    {infos : List Info} (passes : validator.outcome world candidate = .ok info)
    (passed : Passed world candidate validators infos) :
    Passed world candidate (validator :: validators) (info :: infos) := by
  unfold Passed
  rw [List.map_cons, List.map_cons, passes, passed]

theorem Passed.length_eq {validators : List Validator} {infos : List Info}
    (passed : Passed world candidate validators infos) : validators.length = infos.length := by
  simpa using congrArg List.length passed

theorem passed_append_iff {first second : List Validator} {infos : List Info} :
    Passed world candidate (first ++ second) infos ↔
      ∃ own others, infos = own ++ others ∧ Passed world candidate first own ∧
        Passed world candidate second others := by
  unfold Passed
  constructor
  · intro passed
    rw [List.map_append] at passed
    obtain ⟨own, others, rfl, left, right⟩ := List.map_eq_append_iff.mp passed.symm
    exact ⟨own, others, rfl, left.symm, right.symm⟩
  · intro given
    obtain ⟨own, others, rfl, left, right⟩ := given
    rw [List.map_append, List.map_append, left, right]

theorem Passed.outcome_of_mem {validators : List Validator} {infos : List Info}
    (passed : Passed world candidate validators infos) {validator : Validator}
    (member : validator ∈ validators) : ∃ info, validator.outcome world candidate = .ok info := by
  have listed : validator.outcome world candidate ∈ infos.map .ok := by
    rw [← passed]
    exact List.mem_map_of_mem member
  obtain ⟨info, _, own⟩ := List.mem_map.mp listed
  exact ⟨info, own.symm⟩

theorem all_pass_or_first_rejection (world : Collaborators) (candidate : Candidate)
    (validators : List Validator) :
    (∃ infos, Passed world candidate validators infos) ∨
      ∃ before validator after infos rejection,
        validators = before ++ validator :: after ∧
        FirstRejection world candidate before infos validator rejection := by
  induction validators with
  | nil => exact .inl ⟨[], rfl⟩
  | cons validator rest ih =>
    cases own : validator.outcome world candidate with
    | error rejection => exact .inr ⟨[], validator, rest, [], rejection, rfl, rfl, own⟩
    | ok info =>
      rcases ih with ⟨infos, passed⟩ | ⟨before, last, after, infos, rejection, rfl, first⟩
      · exact .inl ⟨info :: infos, passed.cons own⟩
      · exact .inr ⟨validator :: before, last, after, info :: infos, rejection, rfl,
          first.passed.cons own, first.rejected⟩

namespace Chain

theorem runFrom_cons_of_ok {validator : Validator} {info : Info}
    (passes : validator.outcome world candidate = .ok info) (infos : Infos)
    (rest : List Validator) :
    runFrom world candidate infos (validator :: rest) =
      ⟨(runFrom world candidate (infos.push validator.name info) rest).verdict,
        turn world candidate true validator ++
          (runFrom world candidate (infos.push validator.name info) rest).effects⟩ := by
  rw [runFrom, passes]

theorem runFrom_cons_of_error {validator : Validator} {rejection : Rejection}
    (rejects : validator.outcome world candidate = .error rejection) (infos : Infos)
    (rest : List Validator) :
    runFrom world candidate infos (validator :: rest) =
      ⟨.error ⟨rejection.reason, infos.messages ++ rejection.messages, rejection.kind⟩,
        turn world candidate false validator ++
          afterRejecting candidate.toReceivedCommit validator rejection.reason⟩ := by
  rw [runFrom, rejects]

def extended (start : Infos) (validators : List Validator) (infos : List Info) : Infos :=
  ⟨start.entries ++ (validators.map Validator.name).zip infos⟩

theorem runFrom_append {before : List Validator} {infos : List Info}
    (passed : Passed world candidate before infos) (start : Infos) (rest : List Validator) :
    runFrom world candidate start (before ++ rest) =
      ⟨(runFrom world candidate (extended start before infos) rest).verdict,
        before.flatMap (turn world candidate true) ++
          (runFrom world candidate (extended start before infos) rest).effects⟩ := by
  induction before generalizing start infos with
  | nil => simp [extended]
  | cons validator before ih =>
    cases infos with
    | nil => cases passed
    | cons info infos =>
      obtain ⟨own, others⟩ := List.cons.inj passed
      rw [List.cons_append, runFrom_cons_of_ok own, ih others]
      simp [extended, Infos.push]

theorem runFrom_of_passed {validators : List Validator} {infos : List Info}
    (passed : Passed world candidate validators infos) (start : Infos) :
    runFrom world candidate start validators =
      ⟨.ok (extended start validators infos), validators.flatMap (turn world candidate true)⟩ := by
  have run := runFrom_append passed start []
  rw [List.append_nil] at run
  rw [run, runFrom, List.append_nil]

theorem messages_extended {before : List Validator} {infos : List Info}
    (passed : Passed world candidate before infos) :
    (extended .empty before infos).messages = infos.flatMap Info.messages := by
  have lengths : infos.length ≤ (before.map Validator.name).length := by
    rw [List.length_map]
    exact Nat.le_of_eq passed.length_eq.symm
  calc (extended .empty before infos).messages
      = (((before.map Validator.name).zip infos).map Prod.snd).flatMap Info.messages := by
        simp [extended, Infos.empty, Infos.messages, List.flatMap_map]
    _ = infos.flatMap Info.messages := by rw [List.map_snd_zip lengths]

theorem runFrom_of_rejected {before : List Validator} {infos : List Info} {validator : Validator}
    {rejection : Rejection} (first : FirstRejection world candidate before infos validator rejection)
    (after : List Validator) :
    runFrom world candidate .empty (before ++ validator :: after) =
      ⟨.error ⟨rejection.reason, infos.flatMap Info.messages ++ rejection.messages, rejection.kind⟩,
        before.flatMap (turn world candidate true) ++ turn world candidate false validator ++
          afterRejecting candidate.toReceivedCommit validator rejection.reason⟩ := by
  rw [runFrom_append first.passed, runFrom_cons_of_error first.rejected,
    messages_extended first.passed, List.append_assoc]

theorem filterMap_act?_turn (passed : Bool) (validator : Validator) :
    (turn world candidate passed validator).filterMap Effect.act? =
      (validator.judge world candidate).acts.map (Act.inside .validator) := by
  rw [turn, List.filterMap_append, List.filterMap_map, ← List.filterMap_eq_map]
  exact List.append_nil _

theorem filterMap_announced?_turn (passed : Bool) (validator : Validator) :
    (turn world candidate passed validator).filterMap Effect.announced? =
      [.validatorFinished validator.name passed] := by
  rw [turn, List.filterMap_append, List.filterMap_map, List.filterMap_eq_nil_iff.mpr]
  · rfl
  · intro act member
    rfl

theorem filterMap_notified?_turn (passed : Bool) (validator : Validator) :
    (turn world candidate passed validator).filterMap Effect.notified? = [] := by
  rw [turn, List.filterMap_append, List.filterMap_map, List.filterMap_eq_nil_iff.mpr]
  · rfl
  · intro act member
    rfl

theorem validate_of_rejected {chain : Chain} {dossier : Dossier} {before : List Validator}
    {infos : List Info} {validator : Validator} {after : List Validator} {rejection : Rejection}
    (split : chain.validators = before ++ validator :: after)
    (first : FirstRejection world (dossier.candidate world) before infos validator rejection)
    (options : RunOptions) :
    chain.validate world dossier options =
      ⟨.error ⟨rejection.reason, infos.flatMap Info.messages ++ rejection.messages, rejection.kind⟩,
        dossier.request world
          ((chain.opening dossier.toReceivedCommit ++
            (before.flatMap (turn world (dossier.candidate world) true) ++
              turn world (dossier.candidate world) false validator ++
              afterRejecting dossier.toReceivedCommit validator rejection.reason)).map
            (.inside .run))⟩ := by
  simp only [validate, split, runFrom_of_rejected first, List.append_nil]
  rfl

end Chain

theorem Dossier.filterMap_request {β : Type} (view : Effect → Option β)
    (unseen : ∀ answer, view (.requestedDiff answer) = none) (world : Collaborators)
    (dossier : Dossier) (effects : List Effect) :
    (dossier.request world effects).filterMap view = effects.filterMap view :=
  filterMap_requestOnce view unseen _ _ effects

theorem Listener.filterMap_notify {β : Type} {view : Effect → Option β}
    (deaf : ∀ event, view (.remarked event) = none) (listener : Listener) (infos : Infos)
    (received : ReceivedCommit) (patchSet : Option PatchSetId) :
    (listener.notify infos received patchSet).filterMap view =
      (view (.notified ⟨listener.name, infos, received, patchSet⟩)).toList ++
        (listener.report (listener.hear infos received patchSet).reply).filterMap view := by
  have unheard (remarks : List TraceEvent) : (remarks.map Effect.remarked).filterMap view = [] := by
    rw [List.filterMap_map, List.filterMap_eq_nil_iff]
    exact fun event _ => deaf event
  rw [notify, List.filterMap_cons, List.filterMap_append, unheard, List.nil_append]
  cases view (.notified ⟨listener.name, infos, received, patchSet⟩) <;> rfl

namespace Chain

theorem validate_of_passed {chain : Chain} {dossier : Dossier} {infos : List Info}
    (passed : Passed world (dossier.candidate world) chain.validators infos)
    (options : RunOptions) :
    chain.validate world dossier options =
      ⟨.ok ⟨chain.names.zip infos⟩,
        dossier.request world
          ((chain.opening dossier.toReceivedCommit ++
            chain.validators.flatMap (turn world (dossier.candidate world) true) ++
            chain.afterPassing options ⟨chain.names.zip infos⟩ dossier.toReceivedCommit).map
            (.inside .run))⟩ := by
  simp only [validate, runFrom_of_passed passed]
  rfl

/-- What some validators do when they are called one after another, as it appears in a run. -/
def actsOf (world : Collaborators) (candidate : Candidate) (called : List Validator) : List Act :=
  (called.flatMap fun validator => (validator.judge world candidate).acts).map
    (Act.inside .run ∘ Act.inside .validator)

theorem filterMap_actsOf {β : Type} (view : Act → Option β)
    (unchanged : ∀ span act, view (act.inside span) = view act) (called : List Validator) :
    (actsOf world candidate called).filterMap view =
      called.flatMap fun validator => (validator.judge world candidate).acts.filterMap view := by
  have same : view ∘ (Act.inside .run ∘ Act.inside .validator) = view := by
    funext act
    rw [Function.comp_apply, Function.comp_apply, unchanged, unchanged]
  rw [actsOf, List.filterMap_map, same, List.filterMap_flatMap]

theorem filterMap_act?_notify (infos : Infos) (received : ReceivedCommit)
    (patchSet : Option PatchSetId) (listener : Listener) :
    (listener.notify infos received patchSet).filterMap Effect.act? = [] := by
  rw [Listener.filterMap_notify fun _ => rfl, Listener.report]
  split <;> rfl

theorem filterMap_act?_notifyListeners (chain : Chain) (infos : Infos) (received : ReceivedCommit)
    (patchSet : Option PatchSetId) :
    (chain.notifyListeners infos received patchSet).filterMap Effect.act? = [] := by
  rw [notifyListeners, List.filterMap_flatMap, List.flatMap_eq_nil_iff]
  exact fun listener _ => filterMap_act?_notify infos received patchSet listener

theorem filterMap_act?_afterPassing (chain : Chain) (options : RunOptions) (infos : Infos)
    (received : ReceivedCommit) :
    (chain.afterPassing options infos received).filterMap Effect.act? = [] := by
  unfold afterPassing
  split
  · exact chain.filterMap_act?_notifyListeners infos received options.patchSet
  · rfl

theorem filterMap_act?_of_passed {chain : Chain} {dossier : Dossier} {infos : List Info}
    (passed : Passed world (dossier.candidate world) chain.validators infos)
    (options : RunOptions) :
    (chain.validate world dossier options).effects.filterMap Effect.act? =
      actsOf world (dossier.candidate world) chain.validators := by
  have start : (chain.opening dossier.toReceivedCommit).filterMap Effect.act? = [] := rfl
  rw [validate_of_passed passed, Dossier.filterMap_request _ fun _ => rfl,
    Effect.filterMap_act?_inside]
  simp only [List.filterMap_append, List.filterMap_flatMap, filterMap_act?_turn, start,
    filterMap_act?_afterPassing]
  simp [actsOf, List.map_flatMap]

theorem filterMap_act?_of_rejected {chain : Chain} {dossier : Dossier} {before : List Validator}
    {infos : List Info} {validator : Validator} {after : List Validator} {rejection : Rejection}
    (split : chain.validators = before ++ validator :: after)
    (first : FirstRejection world (dossier.candidate world) before infos validator rejection)
    (options : RunOptions) :
    (chain.validate world dossier options).effects.filterMap Effect.act? =
      actsOf world (dossier.candidate world) (before ++ [validator]) := by
  have start : (chain.opening dossier.toReceivedCommit).filterMap Effect.act? = [] := rfl
  have finish : (afterRejecting dossier.toReceivedCommit validator
      rejection.reason).filterMap Effect.act? = [] := rfl
  rw [validate_of_rejected split first, Dossier.filterMap_request _ fun _ => rfl,
    Effect.filterMap_act?_inside]
  simp only [List.filterMap_append, List.filterMap_flatMap, filterMap_act?_turn, start, finish]
  simp [actsOf, List.map_flatMap]

theorem exists_called (world : Collaborators) (chain : Chain) (dossier : Dossier)
    (options : RunOptions) :
    ∃ called, called <+: chain.validators ∧
      (chain.validate world dossier options).effects.filterMap Effect.act? =
        actsOf world (dossier.candidate world) called := by
  rcases all_pass_or_first_rejection world (dossier.candidate world) chain.validators with
    ⟨infos, passed⟩ | ⟨before, validator, after, infos, rejection, split, first⟩
  · exact ⟨chain.validators, List.prefix_rfl, filterMap_act?_of_passed passed options⟩
  · refine ⟨before ++ [validator], ?_, filterMap_act?_of_rejected split first options⟩
    exact ⟨after, by rw [split, List.append_assoc, List.singleton_append]⟩

theorem verdict_eq_ok_iff (world : Collaborators) (chain : Chain) (dossier : Dossier)
    (options : RunOptions) (infos : Infos) :
    (chain.validate world dossier options).verdict = .ok infos ↔
      ∃ own, Passed world (dossier.candidate world) chain.validators own ∧
        infos = ⟨chain.names.zip own⟩ := by
  constructor
  · intro accepted
    rcases all_pass_or_first_rejection world (dossier.candidate world) chain.validators with
      ⟨own, passed⟩ | ⟨before, validator, after, own, rejection, split, first⟩
    · rw [validate_of_passed passed] at accepted
      exact ⟨own, passed, (Except.ok.inj accepted).symm⟩
    · rw [validate_of_rejected split first] at accepted
      cases accepted
  · intro given
    obtain ⟨own, passed, rfl⟩ := given
    rw [validate_of_passed passed]

theorem exists_first_rejection {chain : Chain} {dossier : Dossier} {options : RunOptions}
    {rejection : Rejection}
    (rejected : (chain.validate world dossier options).verdict = .error rejection) :
    ∃ before validator after infos own,
      chain.validators = before ++ validator :: after ∧
      FirstRejection world (dossier.candidate world) before infos validator own ∧
      rejection = ⟨own.reason, infos.flatMap Info.messages ++ own.messages, own.kind⟩ := by
  rcases all_pass_or_first_rejection world (dossier.candidate world) chain.validators with
    ⟨infos, passed⟩ | ⟨before, validator, after, infos, own, split, first⟩
  · rw [validate_of_passed passed] at rejected
    cases rejected
  · rw [validate_of_rejected split first] at rejected
    exact ⟨before, validator, after, infos, own, split, first, (Except.error.inj rejected).symm⟩

end Chain

/-- A run does what its validators decide: if all pass, it returns their infos; otherwise it ends with
the first that rejects, after all before it have had one turn each, tells no listener, and puts the
messages of the infos before those of the rejection. -/
theorem validate_ends_with_first_rejection (world : Collaborators) (chain : Chain)
    (dossier : Dossier) (options : RunOptions) :
    let candidate := dossier.candidate world
    let run := chain.validate world dossier options
    (∃ infos : List Info,
      chain.validators.map (Validator.outcome world candidate) = infos.map .ok ∧
      run.verdict = .ok ⟨chain.names.zip infos⟩) ∨
    ∃ before validator after, ∃ infos : List Info, ∃ rejection,
      chain.validators = before ++ validator :: after ∧
      before.map (Validator.outcome world candidate) = infos.map .ok ∧
      validator.outcome world candidate = .error rejection ∧
      run.verdict =
        .error ⟨rejection.reason, infos.flatMap Info.messages ++ rejection.messages,
          rejection.kind⟩ ∧
      run.effects.filterMap Effect.act? =
        ((before ++ [validator]).flatMap fun called => (called.judge world candidate).acts).map
          (Act.inside .run ∘ Act.inside .validator) ∧
      run.effects.filterMap Effect.announced? =
        ([TraceEvent.runStarted dossier.commit.id.name chain.validators.length] ++
          before.map (fun called => TraceEvent.validatorFinished called.name true) ++
          [TraceEvent.validatorFinished validator.name false,
            TraceEvent.runRejected dossier.commit.id.name validator.name rejection.reason]).map
          (TraceEvent.inside .run) ∧
      run.effects.filterMap Effect.notified? = [] := by
  intro candidate run
  rcases all_pass_or_first_rejection world candidate chain.validators with
    ⟨infos, passed⟩ | ⟨before, validator, after, infos, rejection, split, first⟩
  · left
    have whole : run = _ := Chain.validate_of_passed passed options
    refine ⟨infos, passed, ?_⟩
    rw [whole]
  · right
    have whole : run = _ := Chain.validate_of_rejected split first options
    refine ⟨before, validator, after, infos, rejection, split, first.passed, first.rejected,
      ?_, ?_, ?_, ?_⟩
    · rw [whole]
    · exact Chain.filterMap_act?_of_rejected split first options
    · have start : (chain.opening dossier.toReceivedCommit).filterMap Effect.announced? =
          [.runStarted dossier.commit.id.name chain.validators.length] := rfl
      have finish : (Chain.afterRejecting dossier.toReceivedCommit validator
          rejection.reason).filterMap Effect.announced? =
          [.runRejected dossier.commit.id.name validator.name rejection.reason] := rfl
      rw [whole, Dossier.filterMap_request _ fun _ => rfl, Effect.filterMap_announced?_inside]
      simp only [List.filterMap_append, List.filterMap_flatMap, Chain.filterMap_announced?_turn,
        start, finish, ← List.map_eq_flatMap]
      simp
    · have start : (chain.opening dossier.toReceivedCommit).filterMap Effect.notified? = [] := rfl
      have finish : (Chain.afterRejecting dossier.toReceivedCommit validator
          rejection.reason).filterMap Effect.notified? = [] := rfl
      rw [whole, Dossier.filterMap_request _ fun _ => rfl, Effect.filterMap_notified?_inside]
      simp [List.filterMap_append, List.filterMap_flatMap, Chain.filterMap_notified?_turn, start,
        finish]

end CommitAdmission
