import CommitAdmission.Memory
import CommitAdmission.Proofs.Permissions

/-! Whose fault a rejection is. A collaborator that fails gets a commit rejected as the fault of the
server, but for the loader of configurations; and nothing else does, but for a hint that cannot be
given and for plugins. -/

namespace CommitAdmission

variable {world : Collaborators} {candidate : Candidate} {ref : String}

theorem Question.Decides.failed_of_internal {question : Question} {α : Type} {check : Check α}
    (decides : question.Decides world ref check) {rejection : Rejection}
    (rejects : check.outcome = .error rejection) (internal : rejection.kind = .internal) :
    (ref, question.permission) ∈ check.asked ∧
      ∃ failure, world.isGranted ref question.permission = .error failure := by
  cases decides with
  | spared _ _ passes => cases passes.symm.trans rejects
  | granted _ _ passes _ => cases passes.symm.trans rejects
  | refused _ asked own unpermitted =>
    cases own.symm.trans rejects
    cases unpermitted with
    | denied _ policy => exact excused_of_policy policy internal
    | failed answer _ _ =>
      rw [asked]
      exact ⟨List.mem_cons_self, _, answer⟩

theorem isNotBanned_fails {failure : StorageFailure}
    (unknown : world.isBanned candidate.commit.id = .error failure) :
    isNotBanned.outcome world candidate = .error (.internal "error checking banned commits") := by
  rw [isNotBanned, Validator.outcome_ofCheck]
  simp only [unknown]
  rfl

theorem Plugin.decides_of_rejects {plugin : Plugin} {skip : Bool} {rejection : Rejection}
    (rejects : (plugin.validator.skippable skip).outcome world candidate = .error rejection) :
    plugin.decide candidate = .error rejection := by
  unfold Validator.outcome Validator.skippable at rejects
  split at rejects
  · cases rejects
  · exact rejects

inductive Collaborator
  | permissions
  | banIndex
  | configLoader
  deriving DecidableEq, Repr

namespace Factory

variable (factory : Factory) (request : Request) (project : ProjectState)

/-- A validator does not learn from a collaborator what it needs to know of a commit. -/
inductive Fails (world : Collaborators) (candidate : Candidate) :
    Validator → Collaborator → Prop
  | permissions {validator : Validator} {permission : Permission} {failure : PermissionFailure} :
      (request.branch.ref, permission) ∈ validator.asked world candidate →
      world.isGranted request.branch.ref permission = .error failure →
      Fails world candidate validator .permissions
  | banIndex {failure : StorageFailure} :
      world.isBanned candidate.commit.id = .error failure →
      Fails world candidate isNotBanned .banIndex
  | configLoader {detail : String} :
      request.branch.ref = RefName.projectConfig →
      world.loadConfig candidate.project candidate.update.newId = .error (.unreadable detail) →
      Fails world candidate (factory.config request) .configLoader

theorem config_fails {detail : String} (here : request.branch.ref = RefName.projectConfig)
    (unreadable : world.loadConfig candidate.project candidate.update.newId =
      .error (.unreadable detail)) :
    (factory.config request).outcome world candidate =
      .error ⟨"invalid project configuration", [], .policy⟩ := by
  have checked : (request.branch.ref != RefName.projectConfig) = false :=
    bne_eq_false_iff_eq.mpr here
  rw [config, configIsValid, Validator.outcome_ofCheck]
  simp only [checked, unreadable]
  rfl

theorem mem_validators (world : Collaborators) (candidate : Candidate) (scenario : Scenario) :
    ∀ validator ∈ factory.validators request project scenario,
      validator ∈ factory.leading request project ++ factory.trailing ∨
        ∃ plugin ∈ factory.plugins, ∀ rejection,
          validator.outcome world candidate = .error rejection →
            plugin.decide candidate = .error rejection := by
  refine factory.forall_validators request project ?around ?plugins scenario
  case around => exact fun _ => .inl
  case plugins =>
    intro plugin listed
    constructor
    · exact .inr ⟨plugin, listed, fun _ => id⟩
    · exact .inr ⟨plugin, listed, fun _ => plugin.decides_of_rejects⟩

variable {factory request project}

theorem fails_of_decides {question : Question} {validator : Validator} {rejection : Rejection}
    (decides : question.Decides world request.branch.ref (validator.judge world candidate))
    (rejects : validator.outcome world candidate = .error rejection)
    (internal : rejection.kind = .internal) :
    ∃ collaborator, factory.Fails request world candidate validator collaborator := by
  obtain ⟨asked, failure, answer⟩ := decides.failed_of_internal rejects internal
  exact ⟨.permissions, .permissions asked answer⟩

theorem fault_of_internal {validator : Validator} {rejection : Rejection}
    (member : validator ∈ factory.leading request project ++ factory.trailing)
    (rejects : validator.outcome world candidate = .error rejection)
    (internal : rejection.kind = .internal) :
    (∃ collaborator, factory.Fails request world candidate validator collaborator) ∨
      ∃ fault, InstallHint.commands world.systemHost factory.settings.hookCommand request.ssh
        factory.settings.baseUrl request.user.userName = .error fault := by
  have excused {excuse : Collaborators → Candidate → Prop} (routine : validator.Routine excuse) :
      excuse world candidate := (routine world candidate).rejections rejection rejects internal
  simp only [leading, trailing, List.cons_append, List.nil_append, List.mem_cons,
    List.not_mem_nil, or_false] at member
  rcases member with rfl | rfl | rfl | rfl | rfl | rfl | rfl | rfl | rfl | rfl | rfl | rfl
  · exact .inl (fails_of_decides (decides_uploadMerges _ _ _) rejects internal)
  · exact (excused (routine_projectIsActive _)).elim
  · exact .inl (fails_of_decides (factory.decides_serverMerges _ _ _) rejects internal)
  · exact .inl (fails_of_decides (factory.decides_author request _ _) rejects internal)
  · exact (excused (routine_fileCountWithin _ _)).elim
  · exact .inl (fails_of_decides (factory.decides_committer request _ _) rejects internal)
  · exact .inl (fails_of_decides (decides_signedOff request project _ _ _) rejects internal)
  · exact .inr (excused (routine_hasChangeId _))
  · exact (excused (routine_configIsValid _ _ _ _)).elim
  · obtain ⟨failure, unknown⟩ := excused routine_isNotBanned
    exact .inl ⟨.banIndex, .banIndex unknown⟩
  · exact (excused (routine_keepsGroups _)).elim
  · exact (excused routine_labelsAreValid).elim

theorem kind_of_fails {scenario : Scenario} {validator : Validator} {rejection : Rejection}
    {collaborator : Collaborator}
    (fails : factory.Fails request world candidate validator collaborator)
    (member : validator ∈ factory.validators request project scenario)
    (rejects : validator.outcome world candidate = .error rejection) :
    rejection.kind = if collaborator = .configLoader then .policy else .internal := by
  cases fails with
  | @permissions _ permission failure asked answer =>
    have interviews := factory.interviews request project world candidate scenario
    rcases interviews.refused_of_rejects member rejects with none | ⟨other, own, unpermitted⟩
    · rw [none] at asked
      cases asked
    · rw [own] at asked
      cases List.mem_singleton.mp asked
      exact (unpermitted.internal_of_failed answer).1
  | banIndex unknown =>
    rw [isNotBanned_fails unknown] at rejects
    cases rejects
    rfl
  | configLoader here unreadable =>
    rw [factory.config_fails request here unreadable] at rejects
    cases rejects
    rfl

/-- A rejection names the server as its cause if a collaborator failed, except that a configuration
which cannot be read is reported as one that is invalid. Nothing else makes it name the server, but for
a hint that cannot be given and for the word of a plugin. -/
theorem failures_are_internal_except_of_config_loader (world : Collaborators) (factory : Factory)
    (request : Request) (project : ProjectState) (scenario : Scenario) (dossier : Dossier)
    (options : RunOptions) {rejection : Rejection}
    (rejected : ((factory.chain request project scenario).validate world dossier
      options).verdict = .error rejection) :
    let candidate := dossier.candidate world
    ∃ before validator after infos own,
      factory.validators request project scenario = before ++ validator :: after ∧
      FirstRejection world candidate before infos validator own ∧
      rejection.reason = own.reason ∧ rejection.kind = own.kind ∧
      (∀ collaborator, factory.Fails request world candidate validator collaborator →
        rejection.kind = if collaborator = .configLoader then .policy else .internal) ∧
      (rejection.kind = .internal →
        (∃ collaborator, factory.Fails request world candidate validator collaborator) ∨
        (∃ fault, InstallHint.commands world.systemHost factory.settings.hookCommand request.ssh
          factory.settings.baseUrl request.user.userName = .error fault) ∨
        ∃ plugin ∈ factory.plugins, plugin.decide candidate = .error own) := by
  intro candidate
  rcases all_pass_or_first_rejection world candidate
      (factory.validators request project scenario) with
    ⟨infos, passed⟩ | ⟨before, validator, after, infos, own, split, first⟩
  · have accepted : ((factory.chain request project scenario).validate world dossier
        options).verdict = .ok _ := congrArg Run.verdict (Chain.validate_of_passed passed options)
    cases accepted.symm.trans rejected
  · have verdict : ((factory.chain request project scenario).validate world dossier
        options).verdict = .error _ :=
      congrArg Run.verdict (Chain.validate_of_rejected split first options)
    cases verdict.symm.trans rejected
    have member : validator ∈ factory.validators request project scenario := by
      rw [split]
      exact List.mem_append_right _ List.mem_cons_self
    refine ⟨before, validator, after, infos, own, split, first, rfl, rfl, ?_, ?_⟩
    · intro collaborator fails
      change own.kind = _
      exact kind_of_fails fails member first.rejected
    · intro internal
      rcases factory.mem_validators request project world candidate scenario _ member with
        around | ⟨plugin, listed, decides⟩
      · rcases fault_of_internal around first.rejected internal with failed | hintless
        · exact .inl failed
        · exact .inr (.inl hintless)
      · exact .inr (.inr ⟨plugin, listed, decides own first.rejected⟩)

/-- Without plugins and with a hint at hand, a ban index that fails is found to be at fault. -/
theorem unreadable_ban_index_is_internal :
    let project := ProjectState.activeProject ⟨"p"⟩
    let memory := (Memory.empty "localhost").addProject project
    let world := { memory with bansFail := true }.collaborators
    let user : User := { User.ofAccount 1 with emails := .ofList ["u@x"] }
    let person : Person := ⟨"U", "u@x"⟩
    let branch : Branch := ⟨⟨"p"⟩, "refs/heads/main"⟩
    let factory : Factory := ⟨{ Settings.standard with hookCommand := some "install" }, [], []⟩
    let request : Request := ⟨branch, user, .none, none, false⟩
    let received : ReceivedCommit :=
      ⟨⟨"refs/heads/main", .zero, .zero⟩, branch, ⟨.zero, [], person, person, "subject"⟩, user⟩
    ((factory.chain request project .receive).validate world received.dossier
      ⟨none, true⟩).verdict = .error ⟨"error checking banned commits", [], .internal⟩ ∧
    ∃ validator ∈ factory.validators request project .receive, ∃ collaborator,
      factory.Fails request world (received.dossier.candidate world) validator collaborator := by
  refine (fun rejected => ⟨rejected, ?_⟩) (by rfl)
  obtain ⟨before, validator, after, infos, own, split, first, _, _, _, causes⟩ :=
    failures_are_internal_except_of_config_loader _ _ _ _ .receive _ _ rejected
  rcases causes rfl with failed | ⟨fault, unavailable⟩ | ⟨plugin, listed, _⟩
  · refine ⟨validator, ?_, failed⟩
    rw [split]
    exact List.mem_append_right _ List.mem_cons_self
  · cases unavailable
  · cases listed

/-- A configuration that cannot be read for the time being gets its commit rejected as one that is
invalid. -/
theorem unreadable_config_is_policy :
    let project := ProjectState.activeProject ⟨"p"⟩
    let revision : ObjectId := ⟨"4f3c2b1a4f3c2b1a4f3c2b1a4f3c2b1a4f3c2b1a", by decide +kernel⟩
    let memory := (Memory.empty "localhost").addProject project
    let world := (memory.addConfigFailure ⟨"p"⟩ revision (.unreadable "disk failure")).collaborators
    let user : User := { User.ofAccount 1 with emails := .ofList ["u@x"] }
    let person : Person := ⟨"U", "u@x"⟩
    let branch : Branch := ⟨⟨"p"⟩, "refs/meta/config"⟩
    let factory : Factory := ⟨.standard, [], []⟩
    let request : Request := ⟨branch, user, .none, none, false⟩
    let received : ReceivedCommit :=
      ⟨⟨"refs/meta/config", .zero, revision⟩, branch,
        ⟨revision, [], person, person, "Update config"⟩, user⟩
    world.loadConfig received.project received.update.newId =
      .error (.unreadable "disk failure") ∧
    factory.assemble request world .receive = .ok (factory.chain request project .receive) ∧
    ((factory.chain request project .receive).validate world received.dossier
      ⟨none, true⟩).verdict = .error ⟨"invalid project configuration", [], .policy⟩ := by
  refine ⟨?_, ?_, ?_⟩
  · rfl
  · rfl
  · rfl

end Factory

end CommitAdmission
