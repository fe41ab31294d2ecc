import CommitAdmission.Proofs.Run

namespace CommitAdmission

def Run.executed (run : Run) : Nat :=
  (run.effects.filterMap Effect.counted?).count .validatorsExecuted

namespace Effect

theorem filterMap_counted?_inside (span : Span) (effects : List Effect) :
    (effects.map (inside span)).filterMap counted? = effects.filterMap counted? := by
  rw [List.filterMap_map]
  congr
  funext effect
  cases effect <;> rfl

end Effect

variable {world : Collaborators} {candidate : Candidate}

namespace Chain

theorem filterMap_counted?_turn (passed : Bool) (validator : Validator) :
    (turn world candidate passed validator).filterMap Effect.counted? = [.validatorsExecuted] := by
  rw [turn, List.filterMap_append, List.filterMap_map, List.filterMap_eq_nil_iff.mpr]
  · rfl
  · intro act member
    rfl

theorem counted_turns (validators : List Validator) :
    (validators.flatMap (turn world candidate true)).filterMap Effect.counted? =
      List.replicate validators.length .validatorsExecuted := by
  simp only [List.filterMap_flatMap, filterMap_counted?_turn]
  rw [← List.map_eq_flatMap, List.map_const']

theorem filterMap_counted?_notify (infos : Infos) (received : ReceivedCommit)
    (patchSet : Option PatchSetId) (listener : Listener) :
    (listener.notify infos received patchSet).filterMap Effect.counted? =
      ((listener.hear infos received patchSet).reply.error?.map fun _ =>
        Counter.listenersFailed).toList := by
  rw [listener.filterMap_notify fun _ => rfl, Listener.report]
  cases (listener.hear infos received patchSet).reply.error? <;> rfl

def failedCalls (chain : Chain) (infos : Infos) (received : ReceivedCommit)
    (patchSet : Option PatchSetId) : Nat :=
  chain.listeners.countP fun listener => (listener.hear infos received patchSet).reply ≠ .succeeded

theorem counted_notifyListeners (chain : Chain) (infos : Infos) (received : ReceivedCommit)
    (patchSet : Option PatchSetId) :
    (chain.notifyListeners infos received patchSet).filterMap Effect.counted? =
      List.replicate (chain.failedCalls infos received patchSet) .listenersFailed := by
  rw [notifyListeners, failedCalls, List.filterMap_flatMap]
  simp only [filterMap_counted?_notify]
  induction chain.listeners with
  | nil => rfl
  | cons listener rest ih =>
    rw [List.flatMap_cons, ih, List.countP_cons]
    cases reply : (listener.hear infos received patchSet).reply with
    | succeeded => rfl
    | failed error => simp [Reply.error?, List.replicate_succ]
    | panicked payload => cases payload <;> simp [Reply.error?, List.replicate_succ]

theorem counted_afterPassing (chain : Chain) (options : RunOptions) (infos : Infos)
    (received : ReceivedCommit) :
    (chain.afterPassing options infos received).filterMap Effect.counted? =
      List.replicate
        (if options.invokeListeners then chain.failedCalls infos received options.patchSet else 0)
        .listenersFailed := by
  cases invoked : options.invokeListeners with
  | false =>
    rw [afterPassing, invoked]
    rfl
  | true =>
    rw [afterPassing, invoked]
    exact counted_notifyListeners chain infos received options.patchSet

theorem counted_of_passed {chain : Chain} {dossier : Dossier} {infos : List Info}
    (passed : Passed world (dossier.candidate world) chain.validators infos)
    (options : RunOptions) :
    (chain.validate world dossier options).effects.filterMap Effect.counted? =
      .runsStarted :: (List.replicate chain.validators.length .validatorsExecuted ++
        List.replicate
          (if options.invokeListeners then
            chain.failedCalls ⟨chain.names.zip infos⟩ dossier.toReceivedCommit options.patchSet
          else 0)
          .listenersFailed) := by
  have start : (chain.opening dossier.toReceivedCommit).filterMap Effect.counted? =
      [.runsStarted] := rfl
  rw [validate_of_passed passed, Dossier.filterMap_request _ fun _ => rfl,
    Effect.filterMap_counted?_inside]
  simp only [List.filterMap_append, counted_turns, counted_afterPassing, start, List.append_assoc,
    List.singleton_append]

theorem counted_of_rejected {chain : Chain} {dossier : Dossier} {before : List Validator}
    {infos : List Info} {validator : Validator} {after : List Validator} {rejection : Rejection}
    (split : chain.validators = before ++ validator :: after)
    (first : FirstRejection world (dossier.candidate world) before infos validator rejection)
    (options : RunOptions) :
    (chain.validate world dossier options).effects.filterMap Effect.counted? =
      .runsStarted ::
        (List.replicate (before.length + 1) .validatorsExecuted ++ [.runsRejected]) := by
  have start : (chain.opening dossier.toReceivedCommit).filterMap Effect.counted? =
      [.runsStarted] := rfl
  have finish : (afterRejecting dossier.toReceivedCommit validator
      rejection.reason).filterMap Effect.counted? = [.runsRejected] := rfl
  rw [validate_of_rejected split first, Dossier.filterMap_request _ fun _ => rfl,
    Effect.filterMap_counted?_inside]
  simp only [List.filterMap_append, counted_turns, filterMap_counted?_turn, start, finish,
    List.singleton_append, List.replicate_succ', List.append_assoc]

theorem executed_of_passed {chain : Chain} {dossier : Dossier} {infos : List Info}
    (passed : Passed world (dossier.candidate world) chain.validators infos)
    (options : RunOptions) :
    (chain.validate world dossier options).executed = chain.validators.length := by
  rw [Run.executed, counted_of_passed passed]
  simp [List.count_replicate]

theorem executed_of_rejected {chain : Chain} {dossier : Dossier} {before : List Validator}
    {infos : List Info} {validator : Validator} {after : List Validator} {rejection : Rejection}
    (split : chain.validators = before ++ validator :: after)
    (first : FirstRejection world (dossier.candidate world) before infos validator rejection)
    (options : RunOptions) :
    (chain.validate world dossier options).executed = before.length + 1 := by
  rw [Run.executed, counted_of_rejected split first]
  simp

theorem head_mem_take_executed {chain : Chain} {validator : Validator} {rest : List Validator}
    (nonempty : chain.validators = validator :: rest) (world : Collaborators) (dossier : Dossier)
    (options : RunOptions) :
    validator.name ∈ chain.names.take (chain.validate world dossier options).executed := by
  have positive : 0 < (chain.validate world dossier options).executed := by
    rcases all_pass_or_first_rejection world (dossier.candidate world) chain.validators with
      ⟨infos, passed⟩ | ⟨before, rejecting, after, infos, rejection, split, first⟩
    · rw [executed_of_passed passed, nonempty, List.length_cons]
      exact Nat.zero_lt_succ _
    · rw [executed_of_rejected split first]
      exact Nat.zero_lt_succ _
  obtain ⟨count, own⟩ := Nat.exists_eq_succ_of_ne_zero (Nat.ne_of_gt positive)
  rw [own, names, nonempty, List.map_cons, List.take_succ_cons]
  exact List.mem_cons_self

theorem take_executed_of_rejected {chain : Chain} {dossier : Dossier} {before : List Validator}
    {infos : List Info} {validator : Validator} {after : List Validator} {rejection : Rejection}
    (split : chain.validators = before ++ validator :: after)
    (first : FirstRejection world (dossier.candidate world) before infos validator rejection)
    (options : RunOptions) :
    chain.validators.take (chain.validate world dossier options).executed =
      before ++ [validator] := by
  have reached : (chain.validate world dossier options).executed =
      (before ++ [validator]).length := by
    rw [List.length_append]
    exact executed_of_rejected split first options
  have parts : chain.validators = (before ++ [validator]) ++ after := by
    rw [split, List.append_assoc, List.singleton_append]
  rw [reached, parts, List.take_left]

/-- The acts of a run are those of the validators that it executes. -/
theorem filterMap_act?_validate (world : Collaborators) (chain : Chain) (dossier : Dossier)
    (options : RunOptions) :
    let run := chain.validate world dossier options
    run.effects.filterMap Effect.act? =
      actsOf world (dossier.candidate world) (chain.validators.take run.executed) := by
  intro run
  rcases all_pass_or_first_rejection world (dossier.candidate world) chain.validators with
    ⟨infos, passed⟩ | ⟨before, validator, after, infos, rejection, split, first⟩
  · have whole : run.executed = chain.validators.length := executed_of_passed passed options
    rw [whole, List.take_length]
    exact filterMap_act?_of_passed passed options
  · rw [take_executed_of_rejected split first options]
    exact filterMap_act?_of_rejected split first options

end Chain

end CommitAdmission
