import CommitAdmission.Proofs.BuiltIn
import CommitAdmission.Proofs.Rules

namespace CommitAdmission

open Text

/-- A rule decides an outcome: it holds and the outcome is a value, or it is broken and the outcome is
a rejection for one of its reasons. -/
inductive Rule.Governs {α : Type} (rule : Rule) : Except Rejection α → Prop
  | passes {value : α} : rule.holds → Governs rule (.ok value)
  | rejects {rejection : Rejection} :
      ¬ rule.holds → rule.faults rejection.reason → Governs rule (.error rejection)

theorem Rule.Governs.ofCheck {rule : Rule} {check : Collaborators → Candidate → Check Unit}
    {world : Collaborators} {candidate : Candidate}
    (governs : rule.Governs (check world candidate).outcome) (name : String) :
    rule.Governs ((Validator.ofCheck name check).outcome world candidate) := by
  rw [Validator.outcome_ofCheck]
  cases governed : (check world candidate).outcome with
  | ok value =>
    rw [governed] at governs
    cases governs with
    | passes holds => exact .passes holds
  | error rejection =>
    rw [governed] at governs
    cases governs with
    | rejects broken fault => exact .rejects broken fault

theorem Rule.governs_require {rule : Rule} {condition : Bool} {rejection : Rejection}
    (required : condition = true ↔ rule.holds) (fault : rule.faults rejection.reason) :
    rule.Governs (Check.require condition rejection).outcome := by
  rw [Check.outcome_require]
  split
  · rename_i met
    exact .passes (required.mp met)
  · rename_i unmet
    exact .rejects (fun holds => unmet (required.mpr holds)) fault

variable (world : Collaborators) (factory : Factory) (request : Request) (project : ProjectState)
  (received : ReceivedCommit)

theorem Rule.governs_demand {condition : Prop} (unmet : ¬ condition) (permission : Permission)
    {rejection : Rejection} {text : String} (reason : rejection.reason = text) :
    (Rule.orGranted world request condition permission text).Governs
      (askPermission world request.branch.ref permission >>= fun granted =>
        Check.require granted rejection).outcome := by
  rw [Check.outcome_bind, outcome_askPermission]
  cases granted : world.isGranted request.branch.ref permission with
  | error failure =>
    refine .rejects ?_ (.unknown granted)
    intro holds
    rcases holds with met | isGranted
    · exact unmet met
    · rw [granted] at isGranted
      cases isGranted
  | ok answer =>
    cases answer with
    | true => exact .passes (.inr granted)
    | false =>
      refine .rejects ?_ (reason ▸ .denied granted)
      intro holds
      rcases holds with met | isGranted
      · exact unmet met
      · rw [granted] at isGranted
        cases isGranted

theorem Rule.governs_demandIf {condition : Prop} {asked : Bool}
    (needed : asked = true ↔ ¬ condition) (permission : Permission) {rejection : Rejection}
    {text : String} (reason : rejection.reason = text) :
    (Rule.orGranted world request condition permission text).Governs
      (if asked = true then
        askPermission world request.branch.ref permission >>= fun granted =>
          Check.require granted rejection
      else pure () : Check Unit).outcome := by
  split
  · rename_i asks
    exact governs_demand world request (needed.mp asks) permission reason
  · rename_i exempt
    exact .passes (.inl (Classical.byContradiction fun unmet => exempt (needed.mpr unmet)))

theorem isMerge_iff (commit : Commit) : commit.isMerge = true ↔ 1 < commit.parents.length := by
  rw [Commit.isMerge, decide_eq_true_iff]

theorem governs_uploadMerges :
    (mergeRule world request received).Governs
      ((uploadMerges request.branch.ref).outcome world (received.dossier.candidate world)) := by
  apply Rule.Governs.ofCheck
  have several : received.commit.isMerge = true ↔ ¬ received.commit.parents.length ≤ 1 := by
    rw [isMerge_iff, Nat.not_le]
  exact Rule.governs_demandIf world request several .merge rfl

theorem governs_projectIsActive :
    (stateRule project).Governs
      ((projectIsActive project).outcome world (received.dossier.candidate world)) := by
  apply Rule.Governs.ofCheck
  exact Rule.governs_require beq_iff_eq rfl

theorem governs_serverMerges :
    (serverMergeRule world factory request received).Governs
      ((serverMerges request.branch.ref factory.settings.serverPerson).outcome world
        (received.dossier.candidate world)) := by
  apply Rule.Governs.ofCheck
  have amended : (received.commit.isMerge &&
        received.commit.author == factory.settings.serverPerson) = true ↔
      ¬¬ (1 < received.commit.parents.length ∧
        received.commit.author.name = factory.settings.serverPerson.name ∧
        received.commit.author.email = factory.settings.serverPerson.email) := by
    rw [Decidable.not_not, Bool.and_eq_true, isMerge_iff, beq_iff_eq, Person.mk.injEq]
  apply Rule.governs_demandIf world request amended .forgeServer
  rw [Rejection.policy, String.append_assoc, String.append_assoc]
  rfl

theorem hasEmail_iff (user : User) (email : String) :
    user.hasEmail email = true ↔ email ∈ user.emails.members := by
  rw [User.hasEmail, TextSet.contains]
  exact List.contains_iff_mem

theorem governs_checkPerson (role : Role) (baseUrl : Option String) :
    (Rule.orGranted world request
      ((role.person received.commit).email ∈ request.user.emails.members) role.permission
      ("invalid " ++ role.name)).Governs
      (checkPerson role request.branch.ref request.user baseUrl world
        (received.dossier.candidate world)).outcome := by
  simp only [checkPerson]
  split
  · rename_i registered
    exact .passes (.inl ((hasEmail_iff _ _).mp registered))
  · rename_i unregistered
    have unmet : ¬ (role.person received.commit).email ∈ request.user.emails.members :=
      fun member => unregistered ((hasEmail_iff _ _).mpr member)
    exact Rule.governs_demand world request unmet role.permission rfl

theorem governs_author :
    (authorRule world request received).Governs
      ((factory.author request).outcome world (received.dossier.candidate world)) := by
  apply Rule.Governs.ofCheck
  exact governs_checkPerson world request received .author _

theorem governs_committer :
    (committerRule world request received).Governs
      ((factory.committer request).outcome world (received.dossier.candidate world)) := by
  apply Rule.Governs.ofCheck
  exact governs_checkPerson world request received .committer _

theorem countFiles_eq (files : List ChangedFile) :
    ReceivedCommit.countFiles files = treeFiles files := by
  rw [ReceivedCommit.countFiles, treeFiles, List.countP_eq_length_filter]
  congr
  funext file
  rw [RefName.isMagicPath, decide_not, List.contains_eq_mem]

theorem limitsFiles_iff (ref : String) :
    limitsFiles ref = true ↔
      "refs/for/".toList <+: ref.toList ∨ "refs/changes/".toList <+: ref.toList := by
  rw [limitsFiles, Bool.or_eq_true, RefName.isUnder, RefName.isUnder, startsWith_iff, startsWith_iff]
  rfl

theorem governs_fileCount :
    (fileCountRule world factory received).Governs
      (factory.fileCount.outcome world (received.dossier.candidate world)) := by
  apply Rule.Governs.ofCheck
  have count : (received.dossier.candidate world).countChanged.outcome =
      .ok ((world.changedFiles received.project received.commit.id).map treeFiles) := by
    rw [← funext countFiles_eq]
    rfl
  split
  · rename_i unlimited
    refine .passes (.inl fun limited => ?_)
    have : limitsFiles received.ref = true := (limitsFiles_iff _).mpr limited
    rw [Bool.not_eq_true'] at unlimited
    exact Bool.false_ne_true (unlimited.symm.trans this)
  · rename_i limited
    rw [Check.outcome_bind, count]
    cases diff : world.changedFiles received.project received.commit.id with
    | error failure =>
      -- without a diff nothing is counted, and nothing is rejected
      have unavailable : (fileCountRule world factory received).holds := by
        right
        intro files available
        rw [diff] at available
        cases available
      simp only [Except.map, Except.bind]
      split
      · rw [Check.outcome_emit]
        exact .passes unavailable
      · rw [Check.outcome_pure]
        exact .passes unavailable
    | ok files =>
      simp only [Except.map, Except.bind, Check.outcome_bind, Check.outcome_require]
      by_cases within : treeFiles files ≤ factory.settings.maxFiles.toNat
      · have holds : (fileCountRule world factory received).holds := by
          right
          intro others available
          rw [diff] at available
          cases available
          exact within
        rw [if_pos (decide_eq_true within)]
        simp only
        split
        · simp only [Check.outcome_bind, Check.outcome_perform, Check.outcome_emit, Except.bind]
          exact .passes holds
        · rw [Check.outcome_pure]
          exact .passes holds
      · rw [if_neg (by simpa using within)]
        refine .rejects ?_ ⟨files, diff, rfl⟩
        intro holds
        rcases holds with unlimited | bounded
        · rw [Bool.not_eq_true', Bool.not_eq_false] at limited
          exact unlimited ((limitsFiles_iff _).mp limited)
        · exact within (bounded files diff)

theorem isSignedOff_iff_exists (commit : Commit) (user : User) :
    isSignedOff commit user = true ↔
      ∃ footer ∈ commit.footers, footer.hasKey "Signed-off-by" = true ∧
        ∃ email, footer.email? = some email ∧ IsEntitled commit user email := by
  rw [isSignedOff, List.any_eq_true]
  constructor
  · intro given
    obtain ⟨email, listed, entitled⟩ := given
    obtain ⟨footer, member, own⟩ := List.mem_filterMap.mp listed
    obtain ⟨present, key⟩ := List.mem_filter.mp member
    refine ⟨footer, present, key, email, own, ?_⟩
    rw [Bool.or_eq_true, Bool.or_eq_true, beq_iff_eq, beq_iff_eq, hasEmail_iff] at entitled
    rcases entitled with (author | committer) | registered
    · exact .inl author.symm
    · exact .inr (.inl committer.symm)
    · exact .inr (.inr registered)
  · intro given
    obtain ⟨footer, present, key, email, own, entitled⟩ := given
    refine ⟨email, List.mem_filterMap.mpr ⟨footer, List.mem_filter.mpr ⟨present, key⟩, own⟩, ?_⟩
    rw [Bool.or_eq_true, Bool.or_eq_true, beq_iff_eq, beq_iff_eq, hasEmail_iff]
    rcases entitled with author | committer | registered
    · exact .inl (.inl author.symm)
    · exact .inl (.inr committer.symm)
    · exact .inr registered

theorem isSignedOff_iff :
    isSignedOff received.commit request.user = true ↔
      ∃ footer ∈ received.commit.footers, SignsOff request received footer :=
  isSignedOff_iff_exists received.commit request.user

theorem governs_signedOff :
    (signOffRule world request project received).Governs
      ((signedOff request.branch.ref request.user project).outcome world
        (received.dossier.candidate world)) := by
  apply Rule.Governs.ofCheck
  have unsigned : (project.useSignedOffBy && !isSignedOff received.commit request.user) = true ↔
      ¬ (project.useSignedOffBy = false ∨
        ∃ footer ∈ received.commit.footers, SignsOff request received footer) := by
    rw [Bool.and_eq_true, Bool.not_eq_true', ← Bool.not_eq_true, isSignedOff_iff, not_or,
      Bool.not_eq_false]
  exact Rule.governs_demandIf world request unsigned .forgeCommitter rfl

theorem eq_of_not_bne {ref other : String} (same : ¬ (ref != other) = true) : ref = other := by
  rw [bne_iff_ne] at same
  exact Decidable.not_not.mp same

theorem governs_config (sameBranch : request.branch = received.branch) :
    (configRule world factory received).Governs
      ((factory.config request).outcome world (received.dossier.candidate world)) := by
  apply Rule.Governs.ofCheck
  rw [sameBranch]
  split
  · rename_i other
    exact .passes (.inl (bne_iff_ne.mp other))
  · rename_i same
    have here : received.branch.ref = "refs/meta/config" := eq_of_not_bne same
    split
    · rename_i failure unloadable
      refine .rejects ?_ rfl
      intro holds
      rcases holds with elsewhere | ⟨config, loaded, _⟩
      · exact elsewhere here
      · cases loaded.symm.trans unloadable
    · rename_i config loaded
      have only (other : ProjectConfig) (also : world.loadConfig received.project
          received.update.newId = .ok other) : other = config :=
        Except.ok.inj (also.symm.trans loaded)
      rw [Check.outcome_bind, Check.outcome_require]
      by_cases clean : config.problems = []
      · rw [if_pos (List.isEmpty_iff.mpr clean)]
        apply Rule.governs_require _ rfl
        rw [Bool.or_eq_true, bne_iff_ne, beq_iff_eq]
        constructor
        · intro inherits
          refine .inr ⟨config, loaded, clean, fun accounts => ?_⟩
          exact inherits.resolve_left (not_not_intro accounts)
        · intro holds
          rcases holds with elsewhere | ⟨other, also, _, inherits⟩
          · exact absurd here elsewhere
          · rw [only other also] at inherits
            by_cases accounts : received.project = factory.settings.allUsers
            · exact .inr (inherits accounts)
            · exact .inl accounts
      · rw [if_neg fun empty => clean (List.isEmpty_iff.mp empty)]
        refine .rejects ?_ rfl
        intro holds
        rcases holds with elsewhere | ⟨other, also, without, _⟩
        · exact elsewhere here
        · rw [only other also] at without
          exact clean without

theorem governs_isNotBanned :
    (banRule world received).Governs
      (isNotBanned.outcome world (received.dossier.candidate world)) := by
  apply Rule.Governs.ofCheck
  simp only
  split
  · rename_i banned known
    have answer : world.isBanned received.commit.id = .ok banned := known
    cases banned with
    | false => exact .passes answer
    | true =>
      refine .rejects (fun allowed => ?_) (.inl ⟨answer, rfl⟩)
      exact Bool.noConfusion (Except.ok.inj (allowed.symm.trans answer))
  · rename_i failure unknown
    have answer : world.isBanned received.commit.id = .error failure := unknown
    refine .rejects (fun allowed => ?_) (.inr ⟨⟨failure, answer⟩, rfl⟩)
    cases allowed.symm.trans answer

theorem isGroup_iff (ref : String) :
    RefName.isGroup ref = true ↔
      "refs/groups/".toList <+: ref.toList ∨ "refs/deleted-groups/".toList <+: ref.toList ∨
        ref = "refs/meta/group-names" := by
  rw [RefName.isGroup, Bool.or_eq_true, Bool.or_eq_true, beq_iff_eq, RefName.isUnder,
    RefName.isUnder, startsWith_iff, startsWith_iff, or_assoc]
  rfl

theorem isMagic_iff (ref : String) :
    RefName.isMagic ref = true ↔ "refs/for/".toList <+: ref.toList := by
  rw [RefName.isMagic, RefName.isUnder, startsWith_iff]
  rfl

theorem governs_keepsGroups :
    (groupRule factory received).Governs
      ((keepsGroups factory.settings.allUsers).outcome world (received.dossier.candidate world)) := by
  apply Rule.Governs.ofCheck
  apply Rule.governs_require _ rfl
  rw [Bool.or_eq_true, Bool.or_eq_true, bne_iff_ne, Bool.not_eq_true', ← Bool.not_eq_true,
    isMagic_iff, isGroup_iff]
  constructor
  · intro allowed accounts
    rcases allowed with (other | magic) | ungrouped
    · exact absurd accounts other
    · exact .inl magic
    · exact .inr ungrouped
  · intro holds
    by_cases accounts : received.project = factory.settings.allUsers
    · rcases holds accounts with magic | ungrouped
      · exact .inl (.inr magic)
      · exact .inr ungrouped
    · exact .inl (.inl accounts)

theorem conditionProblems_eq_nil_iff (label : Label) :
    conditionProblems world label = [] ↔
      ∀ condition, label.copyCondition = some condition →
        world.checkCondition condition = .ok () := by
  unfold conditionProblems
  cases label.copyCondition with
  | none =>
    constructor
    · intro _ condition present
      cases present
    · intro _
      rfl
  | some condition =>
    cases checked : world.checkCondition condition with
    | ok value =>
      constructor
      · intro _ other same
        cases same
        exact checked
      · intro _
        simp only [checked]
    | error fault =>
      constructor
      · intro empty
        simp only [checked] at empty
        cases empty
      · intro readable
        cases checked.symm.trans (readable condition rfl)

theorem flagProblems_eq_nil_iff (old : Option ProjectConfig) (label : Label) :
    flagProblems old label = [] ↔
      ∀ flag ∈ label.copyFlags.members, flag ∈ deprecatedFlags →
        ∃ before, old.bind (·.label? label.name) = some before ∧
          flag ∈ before.copyFlags.members := by
  rw [flagProblems, List.map_eq_nil_iff, List.filter_eq_nil_iff]
  constructor
  · intro kept flag member deprecated
    have unset := kept flag member
    rw [List.contains_iff_mem.mpr deprecated, Bool.true_and, Bool.not_eq_true', Bool.not_eq_false,
      Option.any_eq_true] at unset
    obtain ⟨before, had, contained⟩ := unset
    exact ⟨before, had, List.contains_iff_mem.mp contained⟩
  · intro had flag member added
    obtain ⟨deprecated, unset⟩ := Bool.and_eq_true_iff.mp added
    obtain ⟨before, found, contained⟩ := had flag member (List.contains_iff_mem.mp deprecated)
    rw [Bool.not_eq_true', found] at unset
    exact Bool.false_ne_true (unset.symm.trans (List.contains_iff_mem.mpr contained))

/-- The configuration before a push: there is none if the branch is new or if it cannot be loaded. -/
inductive Previous (world : Collaborators) (candidate : Candidate) : Option ProjectConfig → Prop
  | first : candidate.update.oldId = ObjectId.zero → Previous world candidate none
  | unloadable {failure : ConfigFailure} : candidate.update.oldId ≠ ObjectId.zero →
      world.loadConfig candidate.project candidate.update.oldId = .error failure →
      Previous world candidate none
  | loaded {config : ProjectConfig} : candidate.update.oldId ≠ ObjectId.zero →
      world.loadConfig candidate.project candidate.update.oldId = .ok config →
      Previous world candidate (some config)

theorem previous_iff {candidate : Candidate} {old : Option ProjectConfig} :
    Previous world candidate old ↔ (previousConfig world candidate).outcome = .ok old := by
  unfold previousConfig
  constructor
  · intro previous
    cases previous with
    | first zero => rw [if_pos (ObjectId.isZero_iff.mpr zero)]; rfl
    | unloadable standing unloadable =>
      rw [if_neg fun zero => standing (ObjectId.isZero_iff.mp zero), unloadable]
      rfl
    | loaded standing loaded =>
      rw [if_neg fun zero => standing (ObjectId.isZero_iff.mp zero), loaded]
      rfl
  · intro outcome
    split at outcome
    · rename_i zero
      cases outcome
      exact .first (ObjectId.isZero_iff.mp zero)
    · rename_i nonzero
      have standing : candidate.update.oldId ≠ ObjectId.zero := fun zero =>
        nonzero (ObjectId.isZero_iff.mpr zero)
      split at outcome
      · rename_i config loaded
        cases outcome
        exact .loaded standing loaded
      · rename_i failure unloadable
        cases outcome
        exact .unloadable standing unloadable

theorem hadFlag_iff (label flag : String) (old : Option ProjectConfig)
    (previous : (previousConfig world (received.dossier.candidate world)).outcome = .ok old) :
    HadFlag world received label flag ↔
      ∃ before, old.bind (·.label? label) = some before ∧ flag ∈ before.copyFlags.members := by
  cases (previous_iff world).mpr previous with
  | first zero =>
    constructor
    · rintro ⟨standing, _⟩
      exact absurd zero standing
    · rintro ⟨before, found, _⟩
      cases found
  | unloadable _ unloadable =>
    constructor
    · rintro ⟨_, other, before, also, _⟩
      cases also.symm.trans unloadable
    · rintro ⟨before, found, _⟩
      cases found
  | loaded standing loaded =>
    constructor
    · rintro ⟨_, other, before, also, found, member⟩
      cases also.symm.trans loaded
      exact ⟨before, found, member⟩
    · rintro ⟨before, found, member⟩
      exact ⟨standing, _, before, loaded, found, member⟩

theorem exists_previousConfig (candidate : Candidate) :
    ∃ old, (previousConfig world candidate).outcome = .ok old := by
  unfold previousConfig
  split
  · exact ⟨none, rfl⟩
  · split
    · exact ⟨_, rfl⟩
    · exact ⟨none, rfl⟩

theorem governs_labelsAreValid :
    (labelRule world received).Governs
      (labelsAreValid.outcome world (received.dossier.candidate world)) := by
  apply Rule.Governs.ofCheck
  split
  · rename_i other
    exact .passes (.inl (bne_iff_ne.mp other))
  · rename_i same
    have here : received.branch.ref = "refs/meta/config" := eq_of_not_bne same
    split
    · rename_i failure unloadable
      refine .passes (.inr fun config loaded => ?_)
      cases loaded.symm.trans unloadable
    · rename_i config loaded
      obtain ⟨old, previous⟩ := exists_previousConfig world (received.dossier.candidate world)
      rw [Check.outcome_bind, previous]
      apply Rule.governs_require _ rfl
      rw [List.isEmpty_iff, labelProblems, List.flatMap_eq_nil_iff]
      simp only [List.append_eq_nil_iff, conditionProblems_eq_nil_iff, flagProblems_eq_nil_iff,
        ← hadFlag_iff world received _ _ old previous]
      constructor
      · intro clean
        refine .inr fun other also => ?_
        cases also.symm.trans loaded
        exact clean
      · intro holds
        rcases holds with elsewhere | clean
        · exact absurd here elsewhere
        · exact clean config loaded

end CommitAdmission
