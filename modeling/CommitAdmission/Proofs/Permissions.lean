import CommitAdmission.Proofs.Decisions
import CommitAdmission.Proofs.Questions

/-! What the chains of the scenarios ask for: each permission for a reason of its own and on the
branch of the request. Where it is not granted, the commit is rejected. -/

namespace CommitAdmission

variable {world : Collaborators} {candidate : Candidate}

theorem Validator.Routine.asked_eq_nil {validator : Validator}
    {excuse : Collaborators → Candidate → Prop} (routine : validator.Routine excuse) :
    validator.asked world candidate = [] :=
  Check.asked_of_routine (routine world candidate).acts

theorem Plugin.asked_validator (plugin : Plugin) (world : Collaborators) (candidate : Candidate) :
    plugin.validator.asked world candidate = [] := by
  have unsaid (event : TraceEvent) : Act.askedPermission? (.emitted event) = none := rfl
  exact plugin.filterMap_acts_validator rfl unsaid world candidate

theorem Plugin.asked_skippable (plugin : Plugin) (skip : Bool) :
    (plugin.validator.skippable skip).asked world candidate = [] := by
  unfold Validator.asked Validator.skippable
  split
  · rfl
  · exact plugin.asked_validator world candidate

namespace Factory

variable (factory : Factory) (request : Request) (project : ProjectState) (commit : Commit)

def mergeQuestion : Question :=
  ⟨"UploadMergesPermissionValidator", .merge, commit.isMerge⟩

def serverQuestion : Question :=
  ⟨"AmendedGerritMergeCommitValidationListener", .forgeServer,
    commit.isMerge && commit.author == factory.settings.serverPerson⟩

def personQuestion (asker : String) (role : Role) : Question :=
  ⟨asker, role.permission, !request.user.hasEmail (role.person commit).email⟩

def authorQuestion : Question := personQuestion request commit "AuthorUploaderValidator" .author

def committerQuestion : Question :=
  personQuestion request commit "CommitterUploaderValidator" .committer

def signOffQuestion : Question :=
  ⟨"SignedOffByValidator", .forgeCommitter,
    project.useSignedOffBy && !isSignedOff commit request.user⟩

def questions : Scenario → List Question
  | .receive =>
    [mergeQuestion commit, factory.serverQuestion commit, authorQuestion request commit,
     committerQuestion request commit, signOffQuestion request project commit]
  | .server =>
    [mergeQuestion commit, factory.serverQuestion commit, authorQuestion request commit,
     signOffQuestion request project commit]
  | .merged =>
    [mergeQuestion commit, authorQuestion request commit, committerQuestion request commit]

theorem decides_uploadMerges (world : Collaborators) (candidate : Candidate) (ref : String) :
    (mergeQuestion candidate.commit).Decides world ref
      ((uploadMerges ref).judge world candidate) := by
  apply Question.Decides.ofCheck
  exact (mergeQuestion candidate.commit).decides_demandIf world ref rfl

theorem decides_serverMerges (world : Collaborators) (candidate : Candidate) (ref : String) :
    (factory.serverQuestion candidate.commit).Decides world ref
      ((serverMerges ref factory.settings.serverPerson).judge world candidate) := by
  apply Question.Decides.ofCheck
  exact (factory.serverQuestion candidate.commit).decides_demandIf world ref rfl

theorem decides_checkPerson (world : Collaborators) (candidate : Candidate) (ref : String)
    (asker : String) (role : Role) (baseUrl : Option String) :
    (personQuestion request candidate.commit asker role).Decides world ref
      (checkPerson role ref request.user baseUrl world candidate) := by
  simp only [checkPerson]
  split
  case isTrue registered =>
    have unneeded : (personQuestion request candidate.commit asker role).needed = false := by
      rw [personQuestion, registered]
      rfl
    exact .spared unneeded rfl rfl
  case isFalse unregistered =>
    have needed : (personQuestion request candidate.commit asker role).needed = true := by
      rw [personQuestion, Bool.eq_false_iff.mpr unregistered]
      rfl
    exact Question.decides_demand needed world ref rfl

theorem decides_signedOff (world : Collaborators) (candidate : Candidate) (ref : String) :
    (signOffQuestion request project candidate.commit).Decides world ref
      ((signedOff ref request.user project).judge world candidate) := by
  apply Question.Decides.ofCheck
  exact (signOffQuestion request project candidate.commit).decides_demandIf world ref rfl

theorem decides_author (world : Collaborators) (candidate : Candidate) :
    (authorQuestion request candidate.commit).Decides world request.branch.ref
      ((factory.author request).judge world candidate) :=
  (decides_checkPerson request world candidate request.branch.ref _ .author _).ofCheck _

theorem decides_committer (world : Collaborators) (candidate : Candidate) :
    (committerQuestion request candidate.commit).Decides world request.branch.ref
      ((factory.committer request).judge world candidate) :=
  (decides_checkPerson request world candidate request.branch.ref _ .committer _).ofCheck _

theorem asked_rest {others : List Validator} {wrap : Plugin → Validator}
    (plugins : ∀ plugin, (wrap plugin).asked world candidate = [])
    (silent : ∀ validator ∈ others, validator.asked world candidate = []) :
    ∀ validator ∈ factory.changeId request project :: factory.config request :: others ++
        factory.plugins.map wrap ++ factory.trailing,
      validator.asked world candidate = [] := by
  simp only [trailing, List.forall_mem_append, List.forall_mem_cons, List.forall_mem_map,
    List.not_mem_nil, false_imp_iff, implies_true, and_true]
  refine ⟨⟨⟨?_, ?_, silent⟩, fun plugin _ => plugins plugin⟩, ?_, ?_⟩
  · exact (routine_hasChangeId _).asked_eq_nil
  · exact (routine_configIsValid _ _ _ _).asked_eq_nil
  · exact (routine_keepsGroups _).asked_eq_nil
  · exact routine_labelsAreValid.asked_eq_nil

theorem interviews (world : Collaborators) (candidate : Candidate) (scenario : Scenario) :
    Interviews world candidate request.branch.ref (factory.validators request project scenario)
      (factory.questions request project candidate.commit scenario) := by
  cases scenario with
  | receive =>
    apply Interviews.asks rfl (decides_uploadMerges _ _ _) rfl
    apply Interviews.silent (routine_projectIsActive _).asked_eq_nil rfl
    apply Interviews.asks rfl (factory.decides_serverMerges _ _ _) rfl
    apply Interviews.asks rfl (factory.decides_author request _ _) rfl
    apply Interviews.silent (routine_fileCountWithin _ _).asked_eq_nil rfl
    apply Interviews.asks rfl (factory.decides_committer request _ _) rfl
    apply Interviews.asks rfl (decides_signedOff request project _ _ _) rfl
    apply Interviews.silence
    apply factory.asked_rest request project (fun plugin => plugin.asked_skippable _)
    exact List.forall_mem_singleton.mpr routine_isNotBanned.asked_eq_nil
  | server =>
    apply Interviews.asks rfl (decides_uploadMerges _ _ _) rfl
    apply Interviews.silent (routine_projectIsActive _).asked_eq_nil rfl
    apply Interviews.asks rfl (factory.decides_serverMerges _ _ _) rfl
    apply Interviews.asks rfl (factory.decides_author request _ _) rfl
    apply Interviews.silent (routine_fileCountWithin _ _).asked_eq_nil rfl
    apply Interviews.asks rfl (decides_signedOff request project _ _ _) rfl
    apply Interviews.silence
    apply factory.asked_rest request project (fun plugin => plugin.asked_validator _ _)
    exact List.forall_mem_nil _
  | merged =>
    apply Interviews.asks rfl (decides_uploadMerges _ _ _) rfl
    apply Interviews.silent (routine_projectIsActive _).asked_eq_nil rfl
    apply Interviews.asks rfl (factory.decides_author request _ _) rfl
    apply Interviews.asks rfl (factory.decides_committer request _ _) rfl
    exact Interviews.silence (List.forall_mem_nil _)

/-- What a run of a scenario asks for: the questions of the scenario that have cause, as far as it
gets. -/
theorem asked_in_scenario (world : Collaborators) (scenario : Scenario) (dossier : Dossier)
    (options : RunOptions) :
    let chain := factory.chain request project scenario
    let run := chain.validate world dossier options
    run.effects.filterMap Effect.askedPermission? =
      (factory.questions request project dossier.commit scenario).flatMap
        (Question.put request.branch.ref (chain.names.take run.executed)) := by
  intro chain run
  have interviews := factory.interviews request project world (dossier.candidate world) scenario
  rw [Chain.filterMap_askedPermission?_validate, Chain.names, ← List.map_take]
  exact interviews.asked_take run.executed

theorem permissions_in_order (scenario : Scenario) :
    ((factory.questions request project commit scenario).map Question.permission).Sublist
      [.merge, .forgeServer, .forgeAuthor, .forgeCommitter, .forgeCommitter] := by
  cases scenario <;> simp [questions, mergeQuestion, serverQuestion, authorQuestion,
    committerQuestion, personQuestion, signOffQuestion, Role.permission]

section Asked

variable (scenario : Scenario) (ref : String) (reached : List String)

theorem asks_merge_iff :
    (ref, .merge) ∈
        (factory.questions request project commit scenario).flatMap (Question.put ref reached) ↔
      "UploadMergesPermissionValidator" ∈ reached ∧ 1 < commit.parents.length := by
  have only : (factory.questions request project commit scenario).filter
      (·.permission == .merge) = [mergeQuestion commit] := by
    cases scenario <;> rfl
  rw [Question.mem_flatMap_put_iff, only, ← isMerge_iff]
  simp [mergeQuestion, and_comm]

theorem asks_forgeServer_iff :
    (ref, .forgeServer) ∈
        (factory.questions request project commit scenario).flatMap (Question.put ref reached) ↔
      scenario ≠ .merged ∧ "AmendedGerritMergeCommitValidationListener" ∈ reached ∧
        1 < commit.parents.length ∧ commit.author = factory.settings.serverPerson := by
  have only : (factory.questions request project commit scenario).filter
      (·.permission == .forgeServer) =
        if scenario = .merged then [] else [factory.serverQuestion commit] := by
    cases scenario <;> rfl
  rw [Question.mem_flatMap_put_iff, only, ← isMerge_iff]
  split
  case isTrue merged => simp [merged]
  case isFalse checked => simp [checked, serverQuestion, and_comm]

theorem asks_forgeAuthor_iff :
    (ref, .forgeAuthor) ∈
        (factory.questions request project commit scenario).flatMap (Question.put ref reached) ↔
      "AuthorUploaderValidator" ∈ reached ∧
        commit.author.email ∉ request.user.emails.members := by
  have only : (factory.questions request project commit scenario).filter
      (·.permission == .forgeAuthor) = [authorQuestion request commit] := by
    cases scenario <;> rfl
  rw [Question.mem_flatMap_put_iff, only, ← hasEmail_iff]
  simp [authorQuestion, personQuestion, Role.person, and_comm]

theorem count_forgeCommitter :
    ((factory.questions request project commit scenario).flatMap
        (Question.put ref reached)).count (ref, .forgeCommitter) =
      (if scenario ≠ .server ∧ "CommitterUploaderValidator" ∈ reached ∧
        commit.committer.email ∉ request.user.emails.members then 1 else 0) +
      (if scenario ≠ .merged ∧ "SignedOffByValidator" ∈ reached ∧ project.useSignedOffBy ∧
        ¬ isSignedOff commit request.user then 1 else 0) := by
  have only : (factory.questions request project commit scenario).filter
      (·.permission == .forgeCommitter) =
        (if scenario = .server then [] else [committerQuestion request commit]) ++
          if scenario = .merged then [] else [signOffQuestion request project commit] := by
    cases scenario <;> rfl
  rw [Question.count_flatMap_put, only, List.countP_append]
  congr 1
  · split
    case isTrue server => simp [server]
    case isFalse checked =>
      simp [checked, committerQuestion, personQuestion, Role.person, ← hasEmail_iff, and_comm]
  · split
    case isTrue merged => simp [merged]
    case isFalse checked => simp [checked, signOffQuestion, and_comm]

end Asked

theorem uploadMerges_reached (world : Collaborators) (scenario : Scenario) (dossier : Dossier)
    (options : RunOptions) :
    let chain := factory.chain request project scenario
    "UploadMergesPermissionValidator" ∈
      chain.names.take (chain.validate world dossier options).executed := by
  intro chain
  have leads : ∃ rest, chain.validators = uploadMerges request.branch.ref :: rest := by
    cases scenario <;> exact ⟨_, rfl⟩
  obtain ⟨rest, nonempty⟩ := leads
  exact Chain.head_mem_take_executed nonempty world dossier options

theorem unreached_merged (world : Collaborators) (dossier : Dossier) (options : RunOptions)
    {name : String} (absent : name ∉ ["UploadMergesPermissionValidator",
      "ProjectStateValidationListener", "AuthorUploaderValidator", "CommitterUploaderValidator"]) :
    let chain := factory.chain request project .merged
    name ∉ chain.names.take (chain.validate world dossier options).executed :=
  fun member => absent (List.mem_of_mem_take member)

/-- Whatever the scenario, a run asks for permissions on the branch of the request and in a fixed
order: for each one if and only if its validator is reached and the commit gives cause. A permission
that is not granted is the last one asked for and the commit is rejected, with a policy rejection
where it is denied and an internal one where nobody knows. -/
theorem permissions_fail_closed (world : Collaborators) (factory : Factory) (request : Request)
    (project : ProjectState) (scenario : Scenario) (dossier : Dossier) (options : RunOptions) :
    let chain := factory.chain request project scenario
    let run := chain.validate world dossier options
    let log := run.effects.filterMap Effect.askedPermission?
    let reached := chain.names.take run.executed
    let commit := dossier.commit
    let ref := request.branch.ref
    (world.project? request.branch.project = some project →
      factory.assemble request world scenario = .ok chain) ∧
    (∀ asked ∈ log, asked.1 = ref) ∧
    (log.map Prod.snd).Sublist
      [.merge, .forgeServer, .forgeAuthor, .forgeCommitter, .forgeCommitter] ∧
    ((ref, .merge) ∈ log ↔ 1 < commit.parents.length) ∧
    ((ref, .forgeServer) ∈ log ↔
      "AmendedGerritMergeCommitValidationListener" ∈ reached ∧
        1 < commit.parents.length ∧ commit.author = factory.settings.serverPerson) ∧
    ((ref, .forgeAuthor) ∈ log ↔
      "AuthorUploaderValidator" ∈ reached ∧
        commit.author.email ∉ request.user.emails.members) ∧
    log.count (ref, .forgeCommitter) =
      (if scenario ≠ .server ∧ "CommitterUploaderValidator" ∈ reached ∧
        commit.committer.email ∉ request.user.emails.members then 1 else 0) +
      (if "SignedOffByValidator" ∈ reached ∧ project.useSignedOffBy ∧
        ¬ isSignedOff commit request.user then 1 else 0) ∧
    (∀ before asked after, log = before ++ asked :: after →
      world.isGranted asked.1 asked.2 ≠ .ok true →
      after = [] ∧ ∃ rejection, run.verdict = .error rejection ∧
        (world.isGranted asked.1 asked.2 = .ok false → rejection.kind = .policy) ∧
        ∀ failure, world.isGranted asked.1 asked.2 = .error failure →
          rejection.kind = .internal ∧ rejection.reason = "internal auth error") ∧
    (∀ infos, run.verdict = .ok infos → ∀ asked ∈ log,
      world.isGranted asked.1 asked.2 = .ok true) := by
  intro chain run log reached commit ref
  have whole : log = (factory.questions request project commit scenario).flatMap
      (Question.put ref reached) :=
    factory.asked_in_scenario request project world scenario dossier options
  have interviews := factory.interviews request project world (dossier.candidate world) scenario
  have first : "UploadMergesPermissionValidator" ∈ reached :=
    factory.uploadMerges_reached request project world scenario dossier options
  refine ⟨?_, ?_, ?_, ?_, ?_, ?_, ?_, ?_, ?_⟩
  · intro cached
    rw [assemble, cached]
  · intro asked member
    rw [whole] at member
    exact Question.ref_of_mem member
  · rw [whole]
    exact (Question.map_snd_flatMap_put _ _ _).trans
      (factory.permissions_in_order request project commit scenario)
  · rw [whole, asks_merge_iff]
    exact and_iff_right first
  · rw [whole, asks_forgeServer_iff]
    -- the merged chain has no such check, so none is reached there
    apply and_iff_right_of_imp
    rintro ⟨member, _⟩ rfl
    exact factory.unreached_merged request project world dossier options (by decide) member
  · rw [whole, asks_forgeAuthor_iff]
  · rw [whole, count_forgeCommitter]
    congr 2
    apply propext
    apply and_iff_right_of_imp
    rintro ⟨member, _⟩ rfl
    exact factory.unreached_merged request project world dossier options (by decide) member
  · intro before asked after split ungranted
    obtain ⟨last, rejection, rejected, unpermitted⟩ :=
      Chain.refused_is_last interviews split ungranted
    exact ⟨last, rejection, rejected, unpermitted.kind_of_denied,
      fun _ => unpermitted.internal_of_failed⟩
  · intro infos accepted
    exact Chain.granted_of_accepted interviews accepted

end Factory

end CommitAdmission
