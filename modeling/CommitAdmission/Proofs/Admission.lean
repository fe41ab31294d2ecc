import CommitAdmission.Memory
import CommitAdmission.Proofs.ChangeIds
import CommitAdmission.Proofs.Run
import Mathlib.Data.List.Forall2

namespace CommitAdmission

variable (world : Collaborators) (factory : Factory) (request : Request) (project : ProjectState)
  (received : ReceivedCommit)

/-- Validators in a row decide rules in a row: all pass because all rules hold, or the first that
rejects does so for a reason of the first rule that is broken. -/
theorem pass_or_first_broken {candidate : Candidate} {rules : List Rule}
    {validators : List Validator}
    (governs : List.Forall₂ (fun rule validator => rule.Governs (validator.outcome world candidate))
      rules validators) :
    ((∀ rule ∈ rules, rule.holds) ∧ ∃ infos, Passed world candidate validators infos) ∨
    ∃ kept rule others before validator after infos rejection,
      rules = kept ++ rule :: others ∧ (∀ earlier ∈ kept, earlier.holds) ∧ ¬ rule.holds ∧
      rule.faults rejection.reason ∧ validators = before ++ validator :: after ∧
      FirstRejection world candidate before infos validator rejection := by
  induction governs with
  | nil => exact .inl ⟨fun rule member => absurd member List.not_mem_nil, [], rfl⟩
  | @cons rule validator rules validators own others ih =>
    generalize outcome : validator.outcome world candidate = result at own
    cases own with
    | rejects broken fault =>
      exact .inr ⟨[], rule, rules, [], validator, validators, [], _, rfl,
        fun earlier member => absurd member List.not_mem_nil, broken, fault, rfl, rfl, outcome⟩
    | @passes info holds =>
      rcases ih with ⟨hold, infos, passed⟩ |
        ⟨kept, broken, later, before, last, after, infos, rejection, rfl, hold, fails, fault, rfl,
          first⟩
      · refine .inl ⟨?_, info :: infos, passed.cons outcome⟩
        intro other member
        rcases List.mem_cons.mp member with rfl | tail
        · exact holds
        · exact hold other tail
      · refine .inr ⟨rule :: kept, broken, later, validator :: before, last, after, info :: infos,
          rejection, rfl, ?_, fails, fault, rfl, first.passed.cons outcome, first.rejected⟩
        intro other member
        rcases List.mem_cons.mp member with rfl | tail
        · exact holds
        · exact hold other tail

theorem governs_receiveValidators (noPlugins : factory.plugins = [])
    (sameBranch : request.branch = received.branch) :
    List.Forall₂
      (fun rule validator =>
        rule.Governs (validator.outcome world (received.dossier.candidate world)))
      (receiveRules world factory request project received)
      (factory.receiveValidators request project) := by
  rw [Factory.receiveValidators, noPlugins]
  exact
    .cons (governs_uploadMerges world request received) <|
    .cons (governs_projectIsActive world project received) <|
    .cons (governs_serverMerges world factory request received) <|
    .cons (governs_author world factory request received) <|
    .cons (governs_fileCount world factory received) <|
    .cons (governs_committer world factory request received) <|
    .cons (governs_signedOff world request project received) <|
    .cons (governs_changeId world factory request project received) <|
    .cons (governs_config world factory request received sameBranch) <|
    .cons (governs_isNotBanned world received) <|
    .cons (governs_keepsGroups world factory received) <|
    .cons (governs_labelsAreValid world received) .nil

theorem Refused.unique {permission : Permission} {text first second : String}
    (refused : Refused world request permission text first)
    (again : Refused world request permission text second) : first = second := by
  cases refused with
  | denied denied =>
    cases again with
    | denied => rfl
    | unknown unknown => cases denied.symm.trans unknown
  | unknown unknown =>
    cases again with
    | denied denied => cases denied.symm.trans unknown
    | unknown => rfl

theorem ChangeIdFault.unique {first second : String}
    (fault : ChangeIdFault request project received first)
    (again : ChangeIdFault request project received second) : first = second := by
  -- two different constructors disagree on the footers or on a condition
  cases fault <;> cases again <;> simp_all

theorem faults_unique :
    ∀ rule ∈ receiveRules world factory request project received, ∀ first second,
      rule.faults first → rule.faults second → first = second := by
  intro rule member first second fault again
  simp only [receiveRules, List.mem_cons, List.not_mem_nil, or_false] at member
  rcases member with rfl | rfl | rfl | rfl | rfl | rfl | rfl | rfl | rfl | rfl | rfl | rfl
  · exact Refused.unique world request fault again
  · exact Eq.trans fault (Eq.symm again)
  · exact Refused.unique world request fault again
  · exact Refused.unique world request fault again
  · obtain ⟨files, available, rfl⟩ := fault
    obtain ⟨others, also, rfl⟩ := again
    cases available.symm.trans also
    rfl
  · exact Refused.unique world request fault again
  · exact Refused.unique world request fault again
  · exact ChangeIdFault.unique request project received fault again
  · exact Eq.trans fault (Eq.symm again)
  · rcases fault with ⟨banned, rfl⟩ | ⟨⟨failure, unknown⟩, rfl⟩
    · rcases again with ⟨_, rfl⟩ | ⟨⟨failure, unknown⟩, rfl⟩
      · rfl
      · cases banned.symm.trans unknown
    · rcases again with ⟨banned, rfl⟩ | ⟨_, rfl⟩
      · cases banned.symm.trans unknown
      · rfl
  · exact Eq.trans fault (Eq.symm again)
  · exact Eq.trans fault (Eq.symm again)

/-- Without plugins, the chain for a push to the branch of the request admits a commit that just came
in if and only if all rules hold; otherwise its reason is that of the first rule that is broken. -/
theorem admits_iff_rules_hold (options : RunOptions)
    (cached : world.project? request.branch.project = some project)
    (noPlugins : factory.plugins = []) (sameBranch : request.branch = received.branch) :
    ∃ chain, factory.assemble request world .receive = .ok chain ∧
      let verdict := (chain.validate world received.dossier options).verdict
      let rules := receiveRules world factory request project received
      ((∃ infos, verdict = .ok infos) ↔ ∀ rule ∈ rules, rule.holds) ∧
      ∀ rejection, verdict = .error rejection →
        ∃ before rule after, rules = before ++ rule :: after ∧
          (∀ earlier ∈ before, earlier.holds) ∧ ¬ rule.holds ∧
          ∀ reason, rule.faults reason ↔ reason = rejection.reason := by
  refine ⟨factory.chain request project .receive, ?_, ?_⟩
  · rw [Factory.assemble, cached]
  · intro verdict rules
    have governs := governs_receiveValidators world factory request project received noPlugins
      sameBranch
    rcases pass_or_first_broken world governs with ⟨hold, infos, passed⟩ |
      ⟨before, rule, after, earlier, validator, later, infos, own, order, hold, broken, fault,
        split, first⟩
    · have accepted : verdict = .ok _ := congrArg Run.verdict (Chain.validate_of_passed passed options)
      refine ⟨⟨fun _ => hold, fun _ => ⟨_, accepted⟩⟩, ?_⟩
      intro rejection rejected
      rw [accepted] at rejected
      cases rejected
    · have rejected : verdict = .error _ :=
        congrArg Run.verdict (Chain.validate_of_rejected split first options)
      have listed : rule ∈ rules := by
        rw [show rules = before ++ rule :: after from order]
        exact List.mem_append_right before List.mem_cons_self
      constructor
      · constructor
        · intro given
          obtain ⟨infos, accepted⟩ := given
          rw [rejected] at accepted
          cases accepted
        · intro hold
          exact absurd (hold rule listed) broken
      · intro rejection given
        rw [rejected] at given
        cases given
        refine ⟨before, rule, after, order, hold, broken, fun reason => ?_⟩
        constructor
        · intro other
          exact faults_unique world factory request project received rule listed _ _ other fault
        · intro same
          subst same
          exact fault

/-- A reviewed change of the configuration is admitted: its author is vouched for by a permission, it
is signed off, and its Change-Id, its files and its configuration are in order. -/
theorem admits_reviewed_configuration :
    let project : ProjectState := ⟨⟨"p"⟩, .active, true, true⟩
    let revision : ObjectId := ⟨"6a5b4c3d6a5b4c3d6a5b4c3d6a5b4c3d6a5b4c3d", by decide +kernel⟩
    let config : ProjectConfig := ⟨⟨"p"⟩, none, [], [⟨"Verified", some "is:MIN", .empty⟩]⟩
    let files : List ChangedFile := [.added "/COMMIT_MSG", .modified "project.config"]
    let memory := ((Memory.empty "localhost").addProject project).addConfig revision config
    let world := ((memory.addDiff revision files).grant .forgeAuthor).collaborators
    let user : User := { User.ofAccount 1 with emails := .ofList ["u@x"] }
    let branch : Branch := ⟨⟨"p"⟩, "refs/meta/config"⟩
    let message : String := "Copy votes\n\nSigned-off-by: Ada <ada@x>\n" ++
      "Change-Id: I6a5b4c3d6a5b4c3d6a5b4c3d6a5b4c3d6a5b4c3d\n"
    let factory : Factory := ⟨.standard, [], []⟩
    let request : Request := ⟨branch, user, .none, none, false⟩
    let received : ReceivedCommit :=
      ⟨⟨"refs/for/refs/meta/config", .zero, revision⟩, branch,
        ⟨revision, [], ⟨"Ada", "ada@x"⟩, ⟨"U", "u@x"⟩, message⟩, user⟩
    world.project? request.branch.project = some project ∧ factory.plugins = [] ∧
      request.branch = received.branch ∧
      ∃ chain, factory.assemble request world .receive = .ok chain ∧
        ∃ infos, (chain.validate world received.dossier ⟨none, true⟩).verdict = .ok infos := by
  intro project revision config files memory world user branch message factory request received
  have cached : world.project? request.branch.project = some project := by decide
  refine ⟨cached, rfl, rfl, ?_⟩
  obtain ⟨chain, assembled, admitted, _⟩ :=
    admits_iff_rules_hold world factory request project received ⟨none, true⟩ cached rfl rfl
  refine ⟨chain, assembled, admitted.mpr ?_⟩
  have diff : world.changedFiles received.project received.commit.id = .ok files := rfl
  have loaded : world.loadConfig received.project received.update.newId = .ok config := rfl
  have signed : isSignedOff received.commit request.user = true := by decide +kernel
  have ids : received.commit.footerValues "Change-Id" =
      ["I6a5b4c3d6a5b4c3d6a5b4c3d6a5b4c3d6a5b4c3d"] := by decide +kernel
  intro rule member
  simp only [receiveRules, List.mem_cons, List.not_mem_nil, or_false] at member
  rcases member with rfl | rfl | rfl | rfl | rfl | rfl | rfl | rfl | rfl | rfl | rfl | rfl
  · exact .inl (by decide)
  · exact rfl
  · exact .inl (by decide)
  · exact .inr rfl
  · refine .inr fun others available => ?_
    cases diff.symm.trans available
    decide
  · exact .inl (by decide)
  · exact .inl (.inr ((isSignedOff_iff_exists _ _).mp signed))
  · refine .single ids ((ChangeId.isWellFormed_iff _).mp (by decide +kernel)) (by decide +kernel) ?_
    exact fun change target => nomatch target
  · exact .inr ⟨config, loaded, rfl, by decide⟩
  · exact rfl
  · intro allUsers
    exact absurd allUsers (by decide)
  · refine .inr fun other own => ?_
    cases loaded.symm.trans own
    refine List.forall_mem_singleton.mpr ⟨?_, List.forall_mem_nil _⟩
    intro condition given
    cases given
    rfl

end CommitAdmission
