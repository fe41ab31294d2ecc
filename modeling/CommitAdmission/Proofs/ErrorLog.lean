import CommitAdmission.Memory
import CommitAdmission.Proofs.FileCounts
import CommitAdmission.Proofs.Lifecycle

/-! The errors in the trace of a run. Where the server is to blame for a rejection, the reason is not
told to the user: it stands in the trace, as an error, and is the last that the rejecting validator
says. There are no other errors, but for the one about a configuration that does not load. -/

namespace CommitAdmission

variable {world : Collaborators} {candidate : Candidate}

theorem Check.calm_of_warnings {α : Type} {check : Check α} {warnings : List TraceEvent}
    (emits : check.emitted = warnings) (warn : ∀ event ∈ warnings, event.level = .warn) :
    check.Calm := by
  intro event member
  rw [emits] at member
  rw [warn event member]
  decide

theorem FileCounting.accountable {maxFiles : UInt64} {host : String} {check : Check Info}
    (counting : FileCounting maxFiles host candidate check) : check.Accountable := by
  cases counting with
  | unlimited _ same =>
    rw [same]
    exact .passed rfl (List.forall_mem_nil _)
  | @unavailable _ warnings _ _ same warn =>
    have emits : check.emitted = warnings := by
      rw [same]
      exact Check.emitted_perform_events warnings
    exact .passed (congrArg Check.outcome same) (Check.calm_of_warnings emits warn)
  | exceeding _ _ _ same policy =>
    rw [same]
    exact .rejected rfl policy (List.forall_mem_nil _)
  | ordinary _ _ _ _ same =>
    rw [same]
    exact .passed rfl (List.forall_mem_nil _)
  | @large _ warnings _ _ _ _ same warn =>
    have emits : check.emitted = warnings := by
      rw [same, Check.emitted, List.filterMap_cons_none rfl, List.filterMap_append]
      exact (List.append_nil _).trans (Check.emitted_perform_events warnings)
    exact .passed (congrArg Check.outcome same) (Check.calm_of_warnings emits warn)

namespace Factory

variable (factory : Factory) (request : Request) (project : ProjectState)

def Unloadable (request : Request) (world : Collaborators) (received : ReceivedCommit) : Prop :=
  request.branch.ref = "refs/meta/config" ∧
    ∃ failure, world.loadConfig received.project received.update.newId = .error failure

/-- It gets the commit rejected as one that breaks a rule, and yet it is an error. -/
theorem config_of_unloadable (unloadable : Unloadable request world candidate.toReceivedCommit) :
    ∃ rejection event,
      (factory.config request).judge world candidate = ⟨.error rejection, [.emitted event]⟩ ∧
      rejection.kind = .policy ∧ event.level = .error := by
  obtain ⟨here, failure, unknown⟩ := unloadable
  have checked : (request.branch.ref != RefName.projectConfig) = false :=
    bne_eq_false_iff_eq.mpr here
  simp only [config, configIsValid, Validator.ofCheck, checked]
  rw [unknown]
  exact ⟨_, _, rfl, rfl, rfl⟩

theorem config_accountable (loadable : ¬Unloadable request world candidate.toReceivedCommit) :
    ((factory.config request).judge world candidate).Accountable := by
  simp only [config, configIsValid, Validator.ofCheck]
  refine Check.Accountable.bind ?_ fun _ => (Check.orderly_pure _).accountable
  split
  · exact (Check.orderly_pure _).accountable
  · rename_i here
    split
    · rename_i failure unknown
      have own : request.branch.ref = "refs/meta/config" :=
        bne_eq_false_iff_eq.mp (Bool.eq_false_iff.mpr here)
      exact absurd ⟨own, failure, unknown⟩ loadable
    · exact ((Check.orderly_require _ rfl).bind fun _ => Check.orderly_require _ rfl).accountable

/-- A validator that accounts for its failures, unless it finds that a configuration does not load. -/
inductive Explains (world : Collaborators) (candidate : Candidate) (validator : Validator) : Prop
  | accountable : (validator.judge world candidate).Accountable → Explains world candidate validator
  | unloadable : validator = factory.config request →
      Unloadable request world candidate.toReceivedCommit → Explains world candidate validator

theorem explains_config : factory.Explains request world candidate (factory.config request) := by
  by_cases unloadable : Unloadable request world candidate.toReceivedCommit
  · exact .unloadable rfl unloadable
  · exact .accountable (factory.config_accountable request unloadable)

theorem explains_of_unplugged (unplugged : factory.plugins = []) (world : Collaborators)
    (candidate : Candidate) (scenario : Scenario) :
    ∀ validator ∈ factory.validators request project scenario,
      factory.Explains request world candidate validator := by
  refine factory.forall_validators request project ?around ?plugins scenario
  case around =>
    have orderly {validator : Validator} (own : validator.Orderly) :
        factory.Explains request world candidate validator :=
      .accountable (own world candidate).accountable
    simp only [leading, trailing, List.forall_mem_append, List.forall_mem_cons]
    exact ⟨⟨orderly (orderly_uploadMerges _), orderly (orderly_projectIsActive _),
        orderly (orderly_serverMerges _ _), orderly (orderly_authorIsUploader _ _ _),
        .accountable (fileCounting _ _ world candidate).accountable,
        orderly (orderly_committerIsUploader _ _ _), orderly (orderly_signedOff _ _ _),
        orderly (orderly_hasChangeId _), factory.explains_config request,
        orderly orderly_isNotBanned, List.forall_mem_nil _⟩,
      orderly (orderly_keepsGroups _), orderly orderly_labelsAreValid, List.forall_mem_nil _⟩
  case plugins =>
    rw [unplugged]
    exact List.forall_mem_nil _

end Factory

def TraceEntry.isError (entry : TraceEntry) : Bool := entry.event.level = .error

namespace Chain

theorem filter_isError_turnEntries (passed : Bool) (validator : Validator) :
    (turnEntries world candidate passed validator).filter TraceEntry.isError =
      ((validator.judge world candidate).emitted.filter fun event => event.level = .error).map
        .own := by
  rw [turnEntries, List.filter_append, List.filter_map]
  exact List.append_nil _

theorem filter_isError_of_calm (passed : Bool) {validator : Validator}
    (calm : (validator.judge world candidate).Calm) :
    (turnEntries world candidate passed validator).filter TraceEntry.isError = [] := by
  rw [filter_isError_turnEntries, List.map_eq_nil_iff, List.filter_eq_nil_iff]
  exact fun event member loud => calm event member (of_decide_eq_true loud)

theorem filter_isError_turns {validators : List Validator}
    (calm : ∀ validator ∈ validators, (validator.judge world candidate).Calm) :
    (validators.flatMap (turnEntries world candidate true)).filter TraceEntry.isError = [] := by
  rw [List.filter_flatMap, List.flatMap_eq_nil_iff]
  exact fun validator member => filter_isError_of_calm true (calm validator member)

theorem filter_isError_failureEntries (chain : Chain) (infos : Infos) (received : ReceivedCommit)
    (patchSet : Option PatchSetId) :
    (chain.failureEntries infos received patchSet).filter TraceEntry.isError = [] := by
  rw [failureEntries, List.filter_map, List.map_eq_nil_iff, List.filter_eq_nil_iff]
  exact fun announcement _ loud => announcement.calm (of_decide_eq_true loud)

theorem filter_isError_said (announcement : Announcement) (rest : List TraceEntry) :
    (TraceEntry.said announcement :: rest).filter TraceEntry.isError = rest.filter TraceEntry.isError :=
  List.filter_cons_of_neg fun loud => announcement.calm (of_decide_eq_true loud)

theorem errors_of_passed {chain : Chain} {dossier : Dossier} {infos : List Info}
    (passed : Passed world (dossier.candidate world) chain.validators infos)
    (calm : ∀ validator ∈ chain.validators, (validator.judge world (dossier.candidate world)).Calm)
    (options : RunOptions) :
    ((chain.validate world dossier options).effects.filterMap Effect.entry?).filter
      TraceEntry.isError = [] := by
  rw [entries_of_passed passed, filter_isError_said, List.filter_append,
    filter_isError_turns calm, filter_isError_said, List.nil_append]
  split
  · exact chain.filter_isError_failureEntries _ _ _
  · rfl

theorem errors_of_rejected {chain : Chain} {dossier : Dossier} {before : List Validator}
    {infos : List Info} {validator : Validator} {after : List Validator} {rejection : Rejection}
    (split : chain.validators = before ++ validator :: after)
    (first : FirstRejection world (dossier.candidate world) before infos validator rejection)
    (calm : ∀ earlier ∈ before, (earlier.judge world (dossier.candidate world)).Calm)
    (options : RunOptions) :
    ((chain.validate world dossier options).effects.filterMap Effect.entry?).filter
      TraceEntry.isError =
      ((validator.judge world (dossier.candidate world)).emitted.filter fun event =>
        event.level = .error).map .own := by
  rw [entries_of_rejected split first, filter_isError_said, List.filter_append,
    List.filter_append, filter_isError_turns calm, filter_isError_said,
    filter_isError_turnEntries]
  exact List.append_nil _

/-- After the last event of a validator that rejects, there is only the record of its rejection. -/
theorem exists_front_of_rejected {chain : Chain} {dossier : Dossier} {before : List Validator}
    {infos : List Info} {validator : Validator} {after : List Validator} {rejection : Rejection}
    (split : chain.validators = before ++ validator :: after)
    (first : FirstRejection world (dossier.candidate world) before infos validator rejection)
    {said : List TraceEvent} {event : TraceEvent}
    (last : (validator.judge world (dossier.candidate world)).emitted = said ++ [event])
    (options : RunOptions) :
    ∃ front, (chain.validate world dossier options).effects.filterMap Effect.entry? =
      front ++
        [.own event, .said (.finished validator.name false),
          .said (.rejected dossier.commit.id.name validator.name rejection.reason)] := by
  refine ⟨.said (.started dossier.commit.id.name chain.validators.length) ::
    (before.flatMap (turnEntries world (dossier.candidate world) true) ++ said.map .own), ?_⟩
  rw [entries_of_rejected split first, turnEntries, last]
  simp only [List.map_append, List.append_assoc, List.cons_append, List.map_cons, List.map_nil,
    List.nil_append]

end Chain

namespace Factory.Explains

variable {factory : Factory} {request : Request} {validator : Validator}

theorem calm_of_passes (explains : factory.Explains request world candidate validator)
    (passes : validator.Passes world candidate) : (validator.judge world candidate).Calm := by
  obtain ⟨info, passes⟩ := passes
  cases explains with
  | accountable accounts =>
    cases accounts with
    | passed _ calm => exact calm
    | rejected rejects => cases passes.symm.trans rejects
    | failed rejects => cases passes.symm.trans rejects
  | unloadable same unloadable =>
    subst same
    obtain ⟨rejection, event, judged, _⟩ := factory.config_of_unloadable request unloadable
    cases passes.symm.trans (congrArg Check.outcome judged)

theorem error_of_internal (explains : factory.Explains request world candidate validator)
    {rejection : Rejection} (rejects : validator.outcome world candidate = .error rejection)
    (internal : rejection.kind = .internal) :
    ∃ said event, (validator.judge world candidate).emitted = said ++ [event] ∧
      event.level = .error ∧
      (validator.judge world candidate).emitted.filter (fun event => event.level = .error) =
        [event] := by
  cases explains with
  | accountable accounts =>
    cases accounts with
    | passed passes => cases passes.symm.trans rejects
    | rejected own policy =>
      cases own.symm.trans rejects
      cases policy.symm.trans internal
    | @failed _ said event _ _ last loud quiet =>
      have silent : said.filter (fun event => event.level = .error) = [] :=
        List.filter_eq_nil_iff.mpr fun other member heard =>
          quiet other member (of_decide_eq_true heard)
      refine ⟨said, event, last, loud, ?_⟩
      rw [last, List.filter_append, silent, List.nil_append]
      exact List.filter_cons_of_pos (decide_eq_true loud)
  | unloadable same unloadable =>
    subst same
    obtain ⟨other, event, judged, policy, _⟩ := factory.config_of_unloadable request unloadable
    cases rejects.symm.trans (congrArg Check.outcome judged)
    cases policy.symm.trans internal

theorem errors_of_policy (explains : factory.Explains request world candidate validator)
    {rejection : Rejection} (rejects : validator.outcome world candidate = .error rejection)
    (policy : rejection.kind = .policy) :
    let errors := (validator.judge world candidate).emitted.filter fun event => event.level = .error
    errors.length ≤ 1 ∧ (errors ≠ [] ↔
      validator = factory.config request ∧ Unloadable request world candidate.toReceivedCommit) := by
  intro errors
  by_cases configured :
      validator = factory.config request ∧ Unloadable request world candidate.toReceivedCommit
  · obtain ⟨rfl, unloadable⟩ := configured
    obtain ⟨_, event, judged, _, loud⟩ := factory.config_of_unloadable request unloadable
    have once : errors = [event] := by
      simp only [errors, judged]
      exact List.filter_cons_of_pos (decide_eq_true loud)
    rw [once]
    exact ⟨Nat.le_refl 1, fun _ => ⟨rfl, unloadable⟩, fun _ => List.cons_ne_nil _ _⟩
  · have none : errors = [] := by
      rw [List.filter_eq_nil_iff]
      cases explains with
      | accountable accounts =>
        cases accounts with
        | passed passes => cases passes.symm.trans rejects
        | rejected _ _ calm => exact fun event member loud => calm event member (of_decide_eq_true loud)
        | failed own internal =>
          cases own.symm.trans rejects
          cases policy.symm.trans internal
      | unloadable same unloadable => exact absurd ⟨same, unloadable⟩ configured
    rw [none]
    exact ⟨Nat.zero_le 1, fun shown => absurd rfl shown, fun given => absurd given configured⟩

end Factory.Explains

namespace Factory

/-- The trace of a run without plugins tells of every failure of the server, once. It has no error if
the commit is accepted. If the server is to blame for a rejection, there is one, and it is the last
event of the validator that rejects, in its span. If the commit is to blame, there is none, unless the
rejecting validator could not load the pushed configuration: then there is one. -/
theorem internal_rejections_are_logged_once (world : Collaborators) (factory : Factory)
    (request : Request) (project : ProjectState) (scenario : Scenario) (dossier : Dossier)
    (options : RunOptions) (unplugged : factory.plugins = []) :
    let candidate := dossier.candidate world
    let run := (factory.chain request project scenario).validate world dossier options
    let trace := run.effects.filterMap Effect.entry?
    let errors := trace.filter TraceEntry.isError
    (∀ infos, run.verdict = .ok infos → errors = []) ∧
    ∀ rejection, run.verdict = .error rejection →
      ∃ before validator after infos own,
        factory.validators request project scenario = before ++ validator :: after ∧
        FirstRejection world candidate before infos validator own ∧ own.kind = rejection.kind ∧
        (rejection.kind = .internal → ∃ front event,
          event.level = .error ∧ errors = [.own event] ∧
          (validator.judge world candidate).emitted.getLast? = some event ∧
          trace = front ++
            [.own event, .said (.finished validator.name false),
              .said (.rejected dossier.commit.id.name validator.name rejection.reason)]) ∧
        (rejection.kind = .policy → errors.length ≤ 1 ∧ (errors ≠ [] ↔
          validator = factory.config request ∧ request.branch.ref = "refs/meta/config" ∧
            ∃ failure, world.loadConfig dossier.project dossier.update.newId = .error failure)) := by
  intro candidate run trace errors
  have explains := factory.explains_of_unplugged request project unplugged world candidate scenario
  refine ⟨?_, ?_⟩
  · intro infos accepted
    obtain ⟨own, passed, _⟩ := (Chain.verdict_eq_ok_iff world _ dossier options infos).mp accepted
    exact Chain.errors_of_passed passed (fun validator member =>
      (explains validator member).calm_of_passes (passed.outcome_of_mem member)) options
  · intro rejection rejected
    obtain ⟨before, validator, after, infos, own, split, first, rfl⟩ :=
      Chain.exists_first_rejection rejected
    have called : ∀ other ∈ before ++ validator :: after,
        factory.Explains request world candidate other := by
      rw [← split]
      exact explains
    have calm : ∀ earlier ∈ before, (earlier.judge world candidate).Calm := by
      intro earlier member
      have passes := first.passed.outcome_of_mem member
      exact (called earlier (List.mem_append_left _ member)).calm_of_passes passes
    have rejecting : factory.Explains request world candidate validator :=
      called validator (List.mem_append_right _ List.mem_cons_self)
    have shown : errors = _ := Chain.errors_of_rejected split first calm options
    refine ⟨before, validator, after, infos, own, split, first, rfl, ?_, ?_⟩
    · intro internal
      obtain ⟨said, event, last, loud, only⟩ := rejecting.error_of_internal first.rejected internal
      have once : errors = [.own event] := shown.trans (congrArg (List.map TraceEntry.own) only)
      obtain ⟨front, whole⟩ := Chain.exists_front_of_rejected split first last options
      refine ⟨front, event, loud, once, ?_, whole⟩
      rw [last, List.getLast?_concat]
    · intro policy
      have own := rejecting.errors_of_policy first.rejected policy
      rw [shown, List.length_map, Ne, List.map_eq_nil_iff]
      exact own

/-- Of a ban index that cannot be read, the trace tells once, although nobody else is told. -/
theorem unreadable_ban_index_is_logged :
    let project := ProjectState.activeProject ⟨"p"⟩
    let memory := (Memory.empty "localhost").addProject project
    let world := { memory with bansFail := true }.collaborators
    let user : User := { User.ofAccount 1 with emails := .ofList ["u@x"] }
    let person : Person := ⟨"U", "u@x"⟩
    let branch : Branch := ⟨⟨"p"⟩, "refs/heads/main"⟩
    let factory : Factory := ⟨.standard, [], []⟩
    let request : Request := ⟨branch, user, .none, none, false⟩
    let received : ReceivedCommit :=
      ⟨⟨"refs/heads/main", .zero, .zero⟩, branch, ⟨.zero, [], person, person, "subject"⟩, user⟩
    let run := (factory.chain request project .receive).validate world received.dossier ⟨none, true⟩
    run.verdict = .error ⟨"error checking banned commits", [], .internal⟩ ∧
    ∃ event, event.level = .error ∧
      (run.effects.filterMap Effect.entry?).filter TraceEntry.isError = [.own event] := by
  refine (fun rejected => ⟨rejected, ?_⟩) (by rfl)
  obtain ⟨_, logged⟩ :=
    internal_rejections_are_logged_once _ ⟨.standard, [], []⟩ _ _ .receive _ _ rfl
  obtain ⟨before, validator, after, infos, own, _, _, _, internal, _⟩ := logged _ rejected
  obtain ⟨front, event, loud, once, _⟩ := internal rfl
  exact ⟨event, loud, once⟩

end Factory

end CommitAdmission
