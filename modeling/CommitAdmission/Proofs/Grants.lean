import CommitAdmission.Memory
import CommitAdmission.Proofs.Permissions

/-! Runs under more and under fewer grants. A permission that is granted in addition gets a commit
further along its chain and shows nowhere else: what was accepted stays accepted with the same infos,
and what is rejected nevertheless was rejected no later. -/

namespace CommitAdmission

abbrev Grants := String → Permission → Except PermissionFailure Bool

def Grants.Within (grants wider : Grants) : Prop :=
  ∀ ref permission, grants ref permission = .ok true → wider ref permission = .ok true

def Collaborators.granting (world : Collaborators) (grants : Grants) : Collaborators :=
  { world with isGranted := grants }

/-- A validator that passes with the same info where more is granted. -/
def Validator.KeepsPassing (validator : Validator) : Prop :=
  ∀ (world : Collaborators) (wider : Grants) (candidate : Candidate) (info : Info),
    Grants.Within world.isGranted wider → validator.outcome world candidate = .ok info →
    validator.outcome (world.granting wider) candidate = .ok info

theorem Validator.keepsPassing_of_heedless {validator : Validator}
    (heedless : ∀ (world : Collaborators) (wider : Grants) (candidate : Candidate),
      validator.outcome (world.granting wider) candidate = validator.outcome world candidate) :
    validator.KeepsPassing := by
  intro world wider candidate info _ passes
  rw [heedless, passes]

theorem Question.Decides.passes_iff {question : Question} {world : Collaborators} {ref : String}
    {α : Type} {check : Check α} (decides : question.Decides world ref check) :
    (∃ value, check.outcome = .ok value) ↔
      (question.needed = true → world.isGranted ref question.permission = .ok true) := by
  cases decides with
  | spared unneeded _ passes => simp [unneeded, passes]
  | granted _ _ passes answer => simp [answer, passes]
  | refused needed _ rejects unpermitted =>
    have ungranted : world.isGranted ref question.permission ≠ .ok true := by
      cases unpermitted with
      | denied answer _ => simp [answer]
      | failed answer _ _ => simp [answer]
    simp [needed, rejects, ungranted]

theorem Validator.keepsPassing_of_decides {validator : Validator} (builtIn : validator.BuiltIn)
    {question : Candidate → Question} {ref : String}
    (decides : ∀ world candidate,
      (question candidate).Decides world ref (validator.judge world candidate)) :
    validator.KeepsPassing := by
  intro world wider candidate info within passes
  have granted := (decides world candidate).passes_iff.mp ⟨info, passes⟩
  have wide : (question candidate).needed = true →
      (world.granting wider).isGranted ref (question candidate).permission = .ok true :=
    fun needed => within ref _ (granted needed)
  obtain ⟨other, passesToo⟩ := (decides (world.granting wider) candidate).passes_iff.mpr wide
  have plain : info = .plain := builtIn.plain _ _ _ passes
  have plainToo : other = .plain := builtIn.plain _ _ _ passesToo
  rw [plain, ← plainToo]
  exact passesToo

theorem ChangeIdPolicy.check_granting (policy : ChangeIdPolicy) (world : Collaborators)
    (wider : Grants) (candidate : Candidate) :
    policy.check (world.granting wider) candidate = policy.check world candidate := by
  have hint (reason : String) : policy.rejectWithHint (world.granting wider) reason =
      policy.rejectWithHint world reason := rfl
  simp only [check, hint]

variable {world : Collaborators} {wider : Grants} {candidate : Candidate}

theorem Passed.widen {validators : List Validator} {infos : List Info}
    (passed : Passed world candidate validators infos)
    (keeps : ∀ validator ∈ validators, validator.KeepsPassing)
    (within : Grants.Within world.isGranted wider) :
    Passed (world.granting wider) candidate validators infos := by
  induction validators generalizing infos with
  | nil => exact passed
  | cons validator rest ih =>
    cases infos with
    | nil => cases passed
    | cons info infos =>
      obtain ⟨own, others⟩ := List.cons.inj passed
      have first := keeps validator List.mem_cons_self world wider candidate info within own
      exact Passed.cons first (ih others fun other member =>
        keeps other (List.mem_cons_of_mem validator member))

/-- Of two first rejections in one list, the one under fewer grants comes no later. -/
theorem FirstRejection.length_le_of_wider {before before' after after' : List Validator}
    {infos infos' : List Info} {validator validator' : Validator} {rejection rejection' : Rejection}
    (first : FirstRejection world candidate before infos validator rejection)
    (firstToo : FirstRejection (world.granting wider) candidate before' infos' validator' rejection')
    (same : before ++ validator :: after = before' ++ validator' :: after')
    (keeps : ∀ validator ∈ before, validator.KeepsPassing)
    (within : Grants.Within world.isGranted wider) : before.length ≤ before'.length := by
  rcases List.append_eq_append_iff.mp same with ⟨between, rfl, _⟩ | ⟨between, rfl, rest⟩
  · rw [List.length_append]
    exact Nat.le_add_right _ _
  · cases between with
    | nil => simp
    | cons next between =>
      -- the validator that rejects under more grants would have passed under fewer
      obtain ⟨rfl, _⟩ := List.cons.inj rest
      have passed := first.passed.widen keeps within
      have member : validator' ∈ before' ++ validator' :: between := by simp
      obtain ⟨info, passes⟩ := passed.outcome_of_mem member
      cases passes.symm.trans firstToo.rejected

theorem Memory.within_of_subset (memory : Memory) {granted : List Permission}
    (more : memory.granted ⊆ granted) :
    Grants.Within memory.isGranted { memory with granted }.isGranted := by
  intro ref permission grants
  unfold isGranted at grants ⊢
  split at grants
  · cases grants
  · rename_i answers
    have held : permission ∈ memory.granted := by simpa using grants
    simp [answers, more held]

namespace Chain

variable (chain : Chain) (dossier : Dossier) (options : RunOptions)

def EndsAt (world : Collaborators) (position : Nat) : Prop :=
  ∃ before validator after infos own,
    chain.validators = before ++ validator :: after ∧ before.length = position ∧
    FirstRejection world (dossier.candidate world) before infos validator own ∧
    (chain.validate world dossier options).verdict =
      .error ⟨own.reason, infos.flatMap Info.messages ++ own.messages, own.kind⟩

variable {chain} (keeps : ∀ validator ∈ chain.validators, validator.KeepsPassing)
  (within : Grants.Within world.isGranted wider)

include keeps within

theorem accepted_of_wider {infos : Infos}
    (accepted : (chain.validate world dossier options).verdict = .ok infos) :
    (chain.validate (world.granting wider) dossier options).verdict = .ok infos := by
  obtain ⟨own, passed, rfl⟩ := (verdict_eq_ok_iff _ _ _ _ _).mp accepted
  exact (verdict_eq_ok_iff _ _ _ _ _).mpr ⟨own, passed.widen keeps within, rfl⟩

theorem ends_no_later {rejection : Rejection}
    (rejected : (chain.validate (world.granting wider) dossier options).verdict =
      .error rejection) :
    ∃ early late, early ≤ late ∧ chain.EndsAt dossier options world early ∧
      chain.EndsAt dossier options (world.granting wider) late := by
  cases verdict : (chain.validate world dossier options).verdict with
  | ok infos => cases (accepted_of_wider dossier options keeps within verdict).symm.trans rejected
  | error own =>
    obtain ⟨before, validator, after, infos, _, split, first, rfl⟩ := exists_first_rejection verdict
    obtain ⟨before', validator', after', infos', _, split', first', rfl⟩ :=
      exists_first_rejection rejected
    have earlier : ∀ validator ∈ before, validator.KeepsPassing := by
      intro other member
      apply keeps other
      rw [split]
      exact List.mem_append_left _ member
    have noLater : before.length ≤ before'.length :=
      first.length_le_of_wider first' (split.symm.trans split') earlier within
    exact ⟨before.length, before'.length, noLater,
      ⟨before, validator, after, infos, _, split, rfl, first, verdict⟩,
      ⟨before', validator', after', infos', _, split', rfl, first', rejected⟩⟩

end Chain

namespace Factory

variable (factory : Factory) (request : Request) (project : ProjectState)

theorem keepsPassing_around :
    ∀ validator ∈ factory.leading request project ++ factory.trailing,
      validator.KeepsPassing := by
  have builtIn : ∀ validator ∈ factory.leading request project, validator.BuiltIn :=
    factory.builtIn_leading request project
  simp only [leading, trailing, List.cons_append, List.nil_append, List.forall_mem_cons,
    List.not_mem_nil, false_imp_iff, implies_true, and_true] at builtIn ⊢
  obtain ⟨merges, _, serverMerges, author, _, committer, signOff, _⟩ := builtIn
  refine ⟨?_, ?_, ?_, ?_, ?_, ?_, ?_, ?_, ?_, ?_, ?_, ?_⟩
  · exact Validator.keepsPassing_of_decides merges fun _ _ => decides_uploadMerges _ _ _
  · exact Validator.keepsPassing_of_heedless fun _ _ _ => rfl
  · exact Validator.keepsPassing_of_decides serverMerges fun _ _ =>
      factory.decides_serverMerges _ _ _
  · exact Validator.keepsPassing_of_decides author fun _ _ => factory.decides_author request _ _
  · exact Validator.keepsPassing_of_heedless fun _ _ _ => rfl
  · exact Validator.keepsPassing_of_decides committer fun _ _ =>
      factory.decides_committer request _ _
  · exact Validator.keepsPassing_of_decides signOff fun _ _ =>
      decides_signedOff request project _ _ _
  · apply Validator.keepsPassing_of_heedless
    intro world wider candidate
    rw [changeId, hasChangeId, Validator.outcome_ofCheck, Validator.outcome_ofCheck,
      ChangeIdPolicy.check_granting]
  · exact Validator.keepsPassing_of_heedless fun _ _ _ => rfl
  · exact Validator.keepsPassing_of_heedless fun _ _ _ => rfl
  · exact Validator.keepsPassing_of_heedless fun _ _ _ => rfl
  · exact Validator.keepsPassing_of_heedless fun _ _ _ => rfl

theorem keepsPassing_validators (scenario : Scenario) :
    ∀ validator ∈ factory.validators request project scenario, validator.KeepsPassing := by
  apply factory.forall_validators request project (factory.keepsPassing_around request project)
  intro plugin _
  constructor
  · exact Validator.keepsPassing_of_heedless fun _ _ _ => rfl
  · exact Validator.keepsPassing_of_heedless fun _ _ _ => rfl

/-- Who is granted more gets no commit rejected that was accepted, and has none of its infos changed.
What is rejected all the same was rejected before by the same validator or by an earlier one. -/
theorem granting_is_monotone (world : Collaborators) (wider : Grants) (factory : Factory)
    (request : Request) (project : ProjectState) (scenario : Scenario) (dossier : Dossier)
    (options : RunOptions)
    (within : ∀ ref permission, world.isGranted ref permission = .ok true →
      wider ref permission = .ok true) :
    let widerWorld := { world with isGranted := wider }
    let chain := factory.chain request project scenario
    let run := chain.validate world dossier options
    let widerRun := chain.validate widerWorld dossier options
    (world.project? request.branch.project = some project →
      factory.assemble request world scenario = .ok chain ∧
      factory.assemble request widerWorld scenario = .ok chain) ∧
    (∀ infos, run.verdict = .ok infos → widerRun.verdict = .ok infos) ∧
    (∀ rejection, widerRun.verdict = .error rejection →
      ∃ early late, early ≤ late ∧ chain.EndsAt dossier options world early ∧
        chain.EndsAt dossier options widerWorld late) := by
  intro widerWorld chain run widerRun
  have keeps : ∀ validator ∈ chain.validators, validator.KeepsPassing :=
    factory.keepsPassing_validators request project scenario
  refine ⟨?_, ?_, ?_⟩
  · intro cached
    have assembled : factory.assemble request world scenario = .ok chain := by
      rw [assemble, cached]
    exact ⟨assembled, assembled⟩
  · intro infos accepted
    exact chain.accepted_of_wider dossier options keeps within accepted
  · intro rejection rejected
    exact chain.ends_no_later dossier options keeps within rejected

/-- The permission to use the name of another author gets a merge two validators further, to the one
that refuses its committer. -/
theorem grant_moves_rejection :
    let project := ProjectState.activeProject ⟨"p"⟩
    let memory := ((Memory.empty "localhost").addProject project).grant .merge
    let world := memory.collaborators
    let widerWorld := (memory.grant .forgeAuthor).collaborators
    let user : User := { User.ofAccount 1 with emails := .ofList ["u@x"] }
    let person : Person := ⟨"V", "v@y"⟩
    let branch : Branch := ⟨⟨"p"⟩, "refs/heads/main"⟩
    let factory : Factory := ⟨.standard, [], []⟩
    let request : Request := ⟨branch, user, .none, none, false⟩
    let received : ReceivedCommit :=
      ⟨⟨"refs/heads/main", .zero, .zero⟩, branch,
        ⟨.zero, [.zero, .zero], person, person, "Merge"⟩, user⟩
    let chain := factory.chain request project .receive
    (∀ ref permission, world.isGranted ref permission = .ok true →
      widerWorld.isGranted ref permission = .ok true) ∧
    (∃ rejection, (chain.validate world received.dossier ⟨none, true⟩).verdict =
      .error rejection ∧ rejection.reason = "invalid author") ∧
    (∃ rejection, (chain.validate widerWorld received.dossier ⟨none, true⟩).verdict =
      .error rejection ∧ rejection.reason = "invalid committer") ∧
    ∃ early late, early ≤ late ∧ chain.EndsAt received.dossier ⟨none, true⟩ world early ∧
      chain.EndsAt received.dossier ⟨none, true⟩ widerWorld late := by
  have within (memory : Memory) (ref : String) (permission : Permission) :
      memory.collaborators.isGranted ref permission = .ok true →
        (memory.grant .forgeAuthor).collaborators.isGranted ref permission = .ok true :=
    memory.within_of_subset (List.subset_cons_self _ _) ref permission
  refine (fun rejected => ⟨within _, ⟨_, rfl, rfl⟩, rejected, ?_⟩) (by exact ⟨_, rfl, rfl⟩)
  obtain ⟨rejection, verdict, _⟩ := rejected
  obtain ⟨_, _, later⟩ := granting_is_monotone _ _ _ _ _ .receive _ _ (within _)
  exact later rejection verdict

end Factory

end CommitAdmission
