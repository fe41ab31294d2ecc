import CommitAdmission.Memory
import CommitAdmission.Proofs.Decisions
import CommitAdmission.Proofs.Skipping

/-! The chains of the three scenarios compared. The receive chain is the server chain with two checks
more, and the merged chain is a part of the receive chain: which of them accept a commit, and what
they report of it, follows from the checks that they share. -/

namespace CommitAdmission

variable (world : Collaborators) (candidate : Candidate)

def Validator.Passes (validator : Validator) : Prop :=
  ∃ info, validator.outcome world candidate = .ok info

/-- What those of some validators that pass report, under their names. -/
def reports (validators : List Validator) : List (String × Info) :=
  validators.filterMap fun validator =>
    (validator.outcome world candidate).toOption.map (validator.name, ·)

variable {world candidate}

theorem exists_passed_iff {validators : List Validator} :
    (∃ infos, Passed world candidate validators infos) ↔
      ∀ validator ∈ validators, validator.Passes world candidate := by
  constructor
  · intro given validator member
    obtain ⟨infos, passed⟩ := given
    exact passed.outcome_of_mem member
  · intro pass
    rcases all_pass_or_first_rejection world candidate validators with
      given | ⟨before, validator, after, infos, rejection, rfl, first⟩
    · exact given
    · have member : validator ∈ before ++ validator :: after := by simp
      obtain ⟨info, passes⟩ := pass validator member
      rw [first.rejected] at passes
      cases passes

theorem reports_append (first second : List Validator) :
    reports world candidate (first ++ second) =
      reports world candidate first ++ reports world candidate second :=
  List.filterMap_append

theorem reports_cons {validator : Validator} {info : Info}
    (passes : validator.outcome world candidate = .ok info) (rest : List Validator) :
    reports world candidate (validator :: rest) =
      (validator.name, info) :: reports world candidate rest := by
  have reported : (validator.outcome world candidate).toOption.map (validator.name, ·) =
      some (validator.name, info) := by
    rw [passes]
    rfl
  exact List.filterMap_cons_some reported

theorem Passed.reports_eq {validators : List Validator} {infos : List Info}
    (passed : Passed world candidate validators infos) :
    reports world candidate validators = (validators.map Validator.name).zip infos := by
  induction validators generalizing infos with
  | nil => rfl
  | cons validator rest ih =>
    cases infos with
    | nil => cases passed
    | cons info infos =>
      obtain ⟨own, others⟩ := List.cons.inj passed
      rw [reports_cons own, ih others, List.map_cons, List.zip_cons_cons]

theorem reports_of_builtIn {validators : List Validator}
    (pass : ∀ validator ∈ validators, validator.Passes world candidate)
    (builtIn : ∀ validator ∈ validators, validator.BuiltIn) :
    reports world candidate validators = plainEntries validators := by
  obtain ⟨infos, passed⟩ := exists_passed_iff.mpr pass
  rw [passed.reports_eq, passed.entries_of_builtIn builtIn]

theorem Chain.verdict_eq_ok_iff_pass (world : Collaborators) (chain : Chain) (dossier : Dossier)
    (options : RunOptions) (infos : Infos) :
    (chain.validate world dossier options).verdict = .ok infos ↔
      (∀ validator ∈ chain.validators, validator.Passes world (dossier.candidate world)) ∧
        infos = ⟨reports world (dossier.candidate world) chain.validators⟩ := by
  rw [Chain.verdict_eq_ok_iff, ← exists_passed_iff]
  constructor
  · intro accepted
    obtain ⟨own, passed, rfl⟩ := accepted
    refine ⟨⟨own, passed⟩, ?_⟩
    rw [passed.reports_eq]
    rfl
  · intro given
    obtain ⟨⟨own, passed⟩, rfl⟩ := given
    refine ⟨own, passed, ?_⟩
    rw [passed.reports_eq]
    rfl

theorem Chain.accepts_iff (world : Collaborators) (chain : Chain) (dossier : Dossier)
    (options : RunOptions) :
    (∃ infos, (chain.validate world dossier options).verdict = .ok infos) ↔
      ∀ validator ∈ chain.validators, validator.Passes world (dossier.candidate world) := by
  simp only [Chain.verdict_eq_ok_iff_pass]
  constructor
  · intro given
    obtain ⟨_, pass, _⟩ := given
    exact pass
  · intro pass
    exact ⟨_, pass, rfl⟩

theorem Rule.Governs.passes_iff {rule : Rule} {validator : Validator}
    (governs : rule.Governs (validator.outcome world candidate)) :
    validator.Passes world candidate ↔ rule.holds := by
  unfold Validator.Passes
  generalize validator.outcome world candidate = outcome at governs
  cases governs with
  | passes holds => simp [holds]
  | rejects broken _ => simp [broken]

theorem Plugin.passes_unskipped_iff (plugin : Plugin) :
    (plugin.validator.skippable false).Passes world candidate ↔
      plugin.validator.Passes world candidate := by
  rw [Validator.Passes, plugin.outcome_kept false (.inl rfl)]
  rfl

theorem Plugin.reports_unskipped (plugins : List Plugin) :
    reports world candidate (plugins.map fun plugin => plugin.validator.skippable false) =
      reports world candidate (plugins.map Plugin.validator) := by
  have same (plugin : Plugin) : (plugin.validator.skippable false).outcome world candidate =
      plugin.validator.outcome world candidate := plugin.outcome_kept false (.inl rfl)
  simp only [reports, List.filterMap_map, Function.comp_def, same]
  rfl

namespace Factory

variable (factory : Factory) (request : Request) (project : ProjectState)

/-- The checks of the receive chain and of the server chain up to the one of the committer. -/
def early : List Validator :=
  [uploadMerges request.branch.ref,
   projectIsActive project,
   serverMerges request.branch.ref factory.settings.serverPerson,
   factory.author request,
   factory.fileCount]

/-- The checks of both chains between the one of the committer and the one for banned commits. -/
def late : List Validator :=
  [signedOff request.branch.ref request.user project,
   factory.changeId request project,
   factory.config request]

theorem leading_eq :
    factory.leading request project =
      factory.early request project ++ factory.committer request ::
        (factory.late request project ++ [isNotBanned]) := rfl

theorem serverValidators_eq :
    factory.serverValidators request project =
      factory.early request project ++ factory.late request project ++
        factory.plugins.map Plugin.validator ++ factory.trailing := rfl

theorem passes_committer_iff (dossier : Dossier) :
    (factory.committer request).Passes world (dossier.candidate world) ↔
      dossier.commit.committer.email ∈ request.user.emails.members ∨
        world.isGranted request.branch.ref .forgeCommitter = .ok true := by
  have governs : (committerRule world request dossier.toReceivedCommit).Governs
      ((factory.committer request).outcome world (dossier.candidate world)) := by
    apply Rule.Governs.ofCheck
    exact governs_checkPerson world request dossier.toReceivedCommit .committer _
  exact governs.passes_iff

theorem passes_isNotBanned_iff (dossier : Dossier) :
    isNotBanned.Passes world (dossier.candidate world) ↔
      world.isBanned dossier.commit.id = .ok false := by
  have governs : (banRule world dossier.toReceivedCommit).Governs
      (isNotBanned.outcome world (dossier.candidate world)) :=
    governs_isNotBanned world dossier.toReceivedCommit
  exact governs.passes_iff

theorem receive_pass_iff (noSkipping : request.skipValidation = false) :
    (∀ validator ∈ factory.receiveValidators request project, validator.Passes world candidate) ↔
      (∀ validator ∈ factory.serverValidators request project,
        validator.Passes world candidate) ∧
      (factory.committer request).Passes world candidate ∧
      isNotBanned.Passes world candidate := by
  have plugins : (∀ validator ∈ factory.plugins.map (fun plugin => plugin.validator.skippable
        request.skipValidation), validator.Passes world candidate) ↔
      ∀ validator ∈ factory.plugins.map Plugin.validator, validator.Passes world candidate := by
    rw [noSkipping]
    simp only [List.forall_mem_map, Plugin.passes_unskipped_iff]
  rw [receiveValidators, leading_eq, serverValidators_eq]
  simp only [List.forall_mem_append, List.forall_mem_cons, List.not_mem_nil, false_imp_iff,
    implies_true, and_true, plugins]
  constructor
  · intro given
    obtain ⟨⟨⟨early, committer, late, unbanned⟩, own⟩, trailing⟩ := given
    exact ⟨⟨⟨⟨early, late⟩, own⟩, trailing⟩, committer, unbanned⟩
  · intro given
    obtain ⟨⟨⟨⟨early, late⟩, own⟩, trailing⟩, committer, unbanned⟩ := given
    exact ⟨⟨⟨early, committer, late, unbanned⟩, own⟩, trailing⟩

theorem builtIn_early : ∀ validator ∈ factory.early request project, validator.BuiltIn := by
  intro validator member
  apply factory.builtIn_leading request project
  rw [leading_eq]
  exact List.mem_append_left _ member

theorem builtIn_late : ∀ validator ∈ factory.late request project, validator.BuiltIn := by
  intro validator member
  apply factory.builtIn_leading request project
  rw [leading_eq]
  exact List.mem_append_right _ (List.mem_cons_of_mem _ (List.mem_append_left _ member))

theorem mem_receive_of_mem_merged {validator : Validator}
    (member : validator ∈ factory.mergedValidators request project) :
    validator ∈ factory.receiveValidators request project := by
  have leading := factory.mem_leading_of_mem_merged request project member
  exact List.mem_append_left _ (List.mem_append_left _ leading)

theorem reports_receive (noSkipping : request.skipValidation = false)
    (pass : ∀ validator ∈ factory.receiveValidators request project,
      validator.Passes world candidate) :
    reports world candidate (factory.receiveValidators request project) =
      plainEntries (factory.early request project) ++ plainEntries [factory.committer request] ++
        plainEntries (factory.late request project) ++ plainEntries [isNotBanned] ++
        reports world candidate (factory.plugins.map Plugin.validator ++ factory.trailing) := by
  have leading : reports world candidate (factory.leading request project) =
      plainEntries (factory.leading request project) := by
    apply reports_of_builtIn _ (factory.builtIn_leading request project)
    intro validator member
    exact pass validator (List.mem_append_left _ (List.mem_append_left _ member))
  rw [receiveValidators, reports_append, reports_append, noSkipping, Plugin.reports_unskipped,
    leading, leading_eq, reports_append]
  simp [plainEntries]

theorem reports_server
    (pass : ∀ validator ∈ factory.serverValidators request project,
      validator.Passes world candidate) :
    reports world candidate (factory.serverValidators request project) =
      plainEntries (factory.early request project) ++ plainEntries (factory.late request project) ++
        reports world candidate (factory.plugins.map Plugin.validator ++ factory.trailing) := by
  rw [serverValidators_eq] at pass ⊢
  simp only [List.forall_mem_append] at pass
  obtain ⟨⟨⟨early, late⟩, _⟩, _⟩ := pass
  rw [reports_append, reports_append, reports_append, reports_append,
    reports_of_builtIn early (factory.builtIn_early request project),
    reports_of_builtIn late (factory.builtIn_late request project), List.append_assoc]

theorem reports_merged
    (pass : ∀ validator ∈ factory.mergedValidators request project,
      validator.Passes world candidate) :
    reports world candidate (factory.mergedValidators request project) =
      plainEntries (factory.mergedValidators request project) := by
  apply reports_of_builtIn pass
  simp only [mergedValidators, List.forall_mem_cons, List.not_mem_nil, false_imp_iff, implies_true,
    and_true]
  exact ⟨builtIn_uploadMerges _, (routine_projectIsActive _).builtIn,
    Validator.builtIn_ofCheck _ (own_checkPerson _ _ _ _),
    Validator.builtIn_ofCheck _ (own_checkPerson _ _ _ _)⟩

/-- Without skipping, the receive chain accepts exactly what the server chain accepts, the committer
may be named, and is known not to be banned. What it reports then is what the server chain reports and
the entries of these two checks, and the merged chain accepts the commit as well. -/
theorem receive_is_server_with_two_checks (world : Collaborators) (factory : Factory)
    (request : Request) (project : ProjectState) (dossier : Dossier) (options : RunOptions)
    (cached : world.project? request.branch.project = some project) :
    ∃ receive server merged : Chain,
      factory.assemble { request with skipValidation := false } world .receive = .ok receive ∧
      factory.assemble request world .server = .ok server ∧
      factory.assemble request world .merged = .ok merged ∧
      let verdict (chain : Chain) := (chain.validate world dossier options).verdict
      let plain (names : List String) := names.map fun name => (name, Info.plain)
      ((∃ infos, verdict receive = .ok infos) ↔
        (∃ infos, verdict server = .ok infos) ∧
        (dossier.commit.committer.email ∈ request.user.emails.members ∨
          world.isGranted request.branch.ref .forgeCommitter = .ok true) ∧
        world.isBanned dossier.commit.id = .ok false) ∧
      ∀ infos, verdict receive = .ok infos →
        ∃ others : List (String × Info),
          infos.entries =
            plain ["UploadMergesPermissionValidator", "ProjectStateValidationListener",
              "AmendedGerritMergeCommitValidationListener", "AuthorUploaderValidator",
              "FileCountValidator"] ++
            plain ["CommitterUploaderValidator"] ++
            plain ["SignedOffByValidator", "ChangeIdValidator", "ConfigValidator"] ++
            plain ["BannedCommitsValidator"] ++ others ∧
          verdict server = .ok ⟨
            plain ["UploadMergesPermissionValidator", "ProjectStateValidationListener",
              "AmendedGerritMergeCommitValidationListener", "AuthorUploaderValidator",
              "FileCountValidator"] ++
            plain ["SignedOffByValidator", "ChangeIdValidator", "ConfigValidator"] ++ others⟩ ∧
          verdict merged = .ok ⟨
            plain ["UploadMergesPermissionValidator", "ProjectStateValidationListener",
              "AuthorUploaderValidator", "CommitterUploaderValidator"]⟩ := by
  let unskipped : Request := { request with skipValidation := false }
  refine ⟨factory.chain unskipped project .receive, factory.chain request project .server,
    factory.chain request project .merged, ?_, ?_, ?_, ?_, ?_⟩
  · simp only [assemble, cached]
    rfl
  · simp only [assemble, cached]
  · simp only [assemble, cached]
  · simp only [Chain.accepts_iff]
    rw [← factory.passes_committer_iff request dossier, ← passes_isNotBanned_iff dossier]
    exact factory.receive_pass_iff unskipped project rfl
  · intro infos accepted
    obtain ⟨pass, rfl⟩ := (Chain.verdict_eq_ok_iff_pass _ _ _ _ _).mp accepted
    obtain ⟨serverPass, _⟩ := (factory.receive_pass_iff unskipped project rfl).mp pass
    have mergedPass : ∀ validator ∈ factory.mergedValidators unskipped project,
        validator.Passes world (dossier.candidate world) := by
      intro validator member
      exact pass validator (factory.mem_receive_of_mem_merged unskipped project member)
    refine ⟨reports world (dossier.candidate world)
      (factory.plugins.map Plugin.validator ++ factory.trailing), ?_, ?_, ?_⟩
    · exact factory.reports_receive unskipped project rfl pass
    · refine (Chain.verdict_eq_ok_iff_pass _ _ _ _ _).mpr ⟨serverPass, ?_⟩
      exact congrArg Infos.mk (factory.reports_server unskipped project serverPass).symm
    · refine (Chain.verdict_eq_ok_iff_pass _ _ _ _ _).mpr ⟨mergedPass, ?_⟩
      exact congrArg Infos.mk (factory.reports_merged unskipped project mergedPass).symm

/-- A plugin keeps its entry also under the name of a check that the server chain lacks. -/
theorem server_keeps_entry_of_plugin :
    let project := ProjectState.activeProject ⟨"p"⟩
    let world := ((Memory.empty "localhost").addProject project).collaborators
    let user : User := { User.ofAccount 1 with emails := .ofList ["u@x"] }
    let person : Person := ⟨"U", "u@x"⟩
    let branch : Branch := ⟨⟨"p"⟩, "refs/heads/main"⟩
    let remark : Info := ⟨.passed, .empty, [.ofHint "looks fine"]⟩
    let plugin := Plugin.constant "CommitterUploaderValidator" false 0 (.ok remark)
    let factory : Factory := ⟨.standard, [plugin], []⟩
    let request : Request := ⟨branch, user, .none, none, true⟩
    let received : ReceivedCommit :=
      ⟨⟨"refs/heads/main", .zero, .zero⟩, branch, ⟨.zero, [], person, person, "subject"⟩, user⟩
    world.project? request.branch.project = some project ∧
      ∃ server infos, factory.assemble request world .server = .ok server ∧
        (server.validate world received.dossier ⟨none, true⟩).verdict = .ok infos ∧
        infos.get? "CommitterUploaderValidator" = some remark := by
  intro project world user person branch remark plugin factory request received
  have cached : world.project? request.branch.project = some project := by decide
  refine ⟨cached, ?_⟩
  obtain ⟨receive, server, merged, assembled, assembledServer, _, _, contained⟩ :=
    receive_is_server_with_two_checks world factory request project received.dossier ⟨none, true⟩
      cached
  let rest : List (String × Info) :=
    [("CommitterUploaderValidator", remark), ("GroupCommitValidator", .plain),
      ("LabelConfigValidator", .plain)]
  have accepted : (receive.validate world received.dossier ⟨none, true⟩).verdict =
      .ok ⟨plainEntries (factory.leading request project) ++ rest⟩ := by
    cases assembled
    -- the kernel computes the verdict of closed terms only
    dsimp only [received, world, request, factory, plugin, remark, branch, person, user, project,
      rest]
    rfl
  obtain ⟨others, whole, acceptedServer, _⟩ := contained _ accepted
  have own : rest = others := List.append_cancel_left whole
  refine ⟨server, _, assembledServer, acceptedServer, ?_⟩
  rw [← own]
  rfl

end Factory

end CommitAdmission
