import CommitAdmission.Proofs.ChangeIdVerdicts

namespace CommitAdmission

open Text

namespace InstallHint

/-- No hint can be given: no command is configured, and there is no web address, or the first SSH host has
something else than a port after its last colon. -/
def IsUnavailable (configured : Option String) (ssh : SshInfo) (webUrl : Option String) : Prop :=
  configured = none ∧
  (webUrl = none ∨ ∃ key others host port, ssh.hostKeys = key :: others ∧
    key.host.toList = host ++ ':' :: port ∧ ':' ∉ port ∧ ¬ IsUnsigned 65536 port)

variable {system webUrl : String} {key : HostKey}

theorem sshAddress_fails_iff :
    (∃ fault, sshAddress system webUrl key = .error fault) ↔
      ∃ host port, key.host.toList = host ++ ':' :: port ∧ ':' ∉ port ∧ ¬ IsUnsigned 65536 port := by
  constructor
  · rintro ⟨fault, fails⟩
    unfold sshAddress at fails
    split at fails
    · cases fails
    · rename_i host port halves
      obtain ⟨whole, last⟩ := append_of_splitLast? halves
      split at fails
      · rename_i unreadable
        exact ⟨host, port, whole, last, fun isPort => readUnsigned?_ne_none_iff.mpr isPort unreadable⟩
      · split at fails <;> cases fails
  · rintro ⟨host, port, whole, last, noPort⟩
    have unreadable : readUnsigned? 0x10000 port = none := by
      by_contra readable
      exact noPort (readUnsigned?_ne_none_iff.mp readable)
    refine ⟨.invalidHostKey key.host, ?_⟩
    rw [sshAddress, whole, splitLast?_append last]
    simp only [unreadable]

theorem commands_fail_iff (system : String) (configured : Option String) (ssh : SshInfo)
    (webUrl user : Option String) :
    (∃ fault, commands system configured ssh webUrl user = .error fault) ↔
      IsUnavailable configured ssh webUrl := by
  cases configured with
  | some command =>
    constructor
    · rintro ⟨fault, fails⟩
      cases fails
    · rintro ⟨unconfigured, _⟩
      cases unconfigured
  | none =>
    cases webUrl with
    | none => exact ⟨fun _ => ⟨rfl, .inl rfl⟩, fun _ => ⟨.missingWebUrl, rfl⟩⟩
    | some url =>
      obtain ⟨_ | ⟨key, others⟩⟩ := ssh
      · constructor
        · rintro ⟨fault, fails⟩
          cases fails
        · rintro ⟨_, noUrl | ⟨key, others, _, _, keys, _⟩⟩
          · cases noUrl
          · cases keys
      · have address : (∃ fault, commands system none ⟨key :: others⟩ (some url) user = .error fault) ↔
            ∃ fault, sshAddress system url key = .error fault := by
          cases found : sshAddress system url key with
          | error fault => simp [commands, found, bind, Except.bind]
          | ok value => simp [commands, found, bind, Except.bind, pure, Except.pure]
        rw [address, sshAddress_fails_iff]
        constructor
        · rintro ⟨host, port, given⟩
          exact ⟨rfl, .inr ⟨key, others, host, port, rfl, given⟩⟩
        · rintro ⟨_, noUrl | ⟨first, rest, host, port, keys, given⟩⟩
          · cases noUrl
          · cases keys
            exact ⟨host, port, given⟩

theorem commands_first (system : String) (configured : Option String) (ssh : SshInfo)
    (webUrl user : Option String) :
    commands system configured ⟨ssh.hostKeys.take 1⟩ webUrl user =
      commands system configured ssh webUrl user := by
  obtain ⟨_ | ⟨key, others⟩⟩ := ssh <;> rfl

end InstallHint

theorem DecidedBy.mapError_eq {outcome other : Except Rejection Info} {faults : List (String × Prop)}
    (decided : DecidedBy outcome faults) (also : DecidedBy other faults) :
    outcome.mapError Rejection.reason = other.mapError Rejection.reason := by
  induction faults with
  | nil => rw [show outcome = _ from decided, show other = _ from also]
  | cons first rest ih =>
    by_cases present : first.2
    · obtain ⟨rejection, rejects, given⟩ := decided.1.mpr present
      obtain ⟨otherRejection, otherRejects, otherGiven⟩ := also.1.mpr present
      rw [rejects, otherRejects, Except.mapError, Except.mapError, given, otherGiven]
    · exact ih (decided.2 present) (also.2 present)

namespace ChangeIdPolicy

variable (policy : ChangeIdPolicy) (world : Collaborators) {candidate : Candidate}

def hintedReasons : List String :=
  ["missing Change-Id in message footer", "invalid Change-Id line format in message footer"]

theorem check_cases (candidate : Candidate) :
    policy.check world candidate = pure () ∨
    (∃ rejection, policy.check world candidate = Check.reject rejection ∧
      rejection.kind = .policy ∧ rejection.reason ∉ hintedReasons) ∨
    ∃ reason ∈ hintedReasons, policy.check world candidate = policy.rejectWithHint world reason := by
  simp only [check]
  split
  · exact .inl rfl
  · split
    case h_1 =>
      split
      · exact .inr (.inl ⟨_, rfl, rfl, (by decide : ChangeId.missingSubject ∉ hintedReasons)⟩)
      · split
        · exact .inr (.inl ⟨_, rfl, rfl, (by decide : ChangeId.aboveFooter ∉ hintedReasons)⟩)
        · split
          · exact .inr (.inr ⟨ChangeId.missing, by decide, rfl⟩)
          · exact .inl rfl
    case h_2 =>
      split
      · exact .inr (.inr ⟨ChangeId.malformed, by decide, rfl⟩)
      · split
        · exact .inr (.inl ⟨_, rfl, rfl, (by decide : ChangeId.mismatch ∉ hintedReasons)⟩)
        · exact .inl rfl
    case h_3 =>
      exact .inr (.inl ⟨_, rfl, rfl, (by decide : ChangeId.multiple ∉ hintedReasons)⟩)

theorem contains_hintMessage (reason hint : String) :
    ∃ before after, ChangeId.hintMessage reason hint = ⟨before ++ hint ++ after, .error⟩ := by
  refine ⟨reason ++ "\n\nHint: to automatically insert a Change-Id, install the hook:\n",
    "\nand then amend the commit:\n  git commit --amend --no-edit\n" ++
      "Finally, push your changes again\n", ?_⟩
  rw [ChangeId.hintMessage, Message.ofError, ← String.append_assoc]

/-- A rejection that should come with a hint blames the server and says no more, or gives the hint. -/
inductive Hinted (reason : String) : Rejection → Prop
  | withoutHint : InstallHint.IsUnavailable policy.hookCommand policy.ssh policy.baseUrl →
      Hinted reason ⟨reason, [], .internal⟩
  | withHint {hint before after : String} {events : List TraceEvent} :
      ¬ InstallHint.IsUnavailable policy.hookCommand policy.ssh policy.baseUrl →
      InstallHint.commands world.systemHost policy.hookCommand policy.ssh policy.baseUrl
        policy.user.userName = .ok (hint, events) →
      Hinted reason ⟨reason, [⟨before ++ hint ++ after, .error⟩], .policy⟩

theorem hinted_of_rejectWithHint {reason : String} {rejection : Rejection}
    (rejects : (policy.rejectWithHint world reason).outcome = .error rejection) :
    policy.Hinted world reason rejection := by
  have unavailable := InstallHint.commands_fail_iff world.systemHost policy.hookCommand policy.ssh
    policy.baseUrl policy.user.userName
  unfold rejectWithHint at rejects
  cases found : InstallHint.commands world.systemHost policy.hookCommand policy.ssh policy.baseUrl
      policy.user.userName with
  | error fault =>
    rw [found] at rejects
    cases rejects
    exact .withoutHint (unavailable.mp ⟨fault, found⟩)
  | ok given =>
    obtain ⟨hint, events⟩ := given
    rw [found] at rejects
    cases rejects
    obtain ⟨before, after, text⟩ := contains_hintMessage reason hint
    rw [Rejection.policyWith, text]
    refine .withHint (fun none => ?_) found
    obtain ⟨fault, fails⟩ := unavailable.mpr none
    cases fails.symm.trans found

theorem hinted_or_policy {rejection : Rejection}
    (rejects : (hasChangeId policy).outcome world candidate = .error rejection) :
    (rejection.reason ∈ hintedReasons ∧ policy.Hinted world rejection.reason rejection) ∨
      (rejection.reason ∉ hintedReasons ∧ rejection.kind = .policy) := by
  have outcome : (hasChangeId policy).outcome world candidate =
      (policy.check world candidate).outcome.map fun _ => Info.plain :=
    Validator.outcome_ofCheck _ _ _ _
  rw [outcome] at rejects
  rcases policy.check_cases world candidate with passes | ⟨own, refuses, kind, unhinted⟩ |
    ⟨reason, hinted, hints⟩
  · rw [passes] at rejects
    cases rejects
  · rw [refuses] at rejects
    cases rejects
    exact .inr ⟨unhinted, kind⟩
  · rw [hints] at rejects
    obtain ⟨own, rejectsOwn, given⟩ := policy.reason_rejectWithHint world reason
    rw [rejectsOwn] at rejects
    cases rejects
    rw [given]
    exact .inl ⟨hinted, policy.hinted_of_rejectWithHint world rejectsOwn⟩

theorem mapError_outcome_eq {other : ChangeIdPolicy} (otherWorld : Collaborators)
    (sameProject : policy.project = other.project) (sameChange : policy.change = other.change) :
    ((hasChangeId policy).outcome world candidate).mapError Rejection.reason =
      ((hasChangeId other).outcome otherWorld candidate).mapError Rejection.reason := by
  cases expected : ChangeId.isExpected candidate.ref with
  | false =>
    rw [policy.outcome_unexpected world expected, other.outcome_unexpected otherWorld expected]
  | true =>
    rcases ids : candidate.commit.footerValues "Change-Id" with _ | ⟨id, _ | ⟨second, others⟩⟩
    · have decided := policy.decided_without_footer world expected ids
      rw [sameProject] at decided
      exact decided.mapError_eq (other.decided_without_footer otherWorld expected ids)
    · have member : id ∈ candidate.commit.footerValues "Change-Id" := ids ▸ List.mem_singleton_self id
      have trimmed : trim id.toList = id.toList := (trim_of_mem_footerValues member).1
      have decided := policy.decided_by_single_footer world expected ids trimmed
      rw [sameChange] at decided
      exact decided.mapError_eq (other.decided_by_single_footer otherWorld expected ids trimmed)
    · rw [policy.outcome_of_several_footers world expected ids,
        other.outcome_of_several_footers otherWorld expected ids]

theorem hasChangeId_first :
    hasChangeId { policy with ssh := ⟨policy.ssh.hostKeys.take 1⟩ } = hasChangeId policy := by
  unfold hasChangeId check rejectWithHint
  simp only [InstallHint.commands_first]

end ChangeIdPolicy

/-- How users are told to install the hook has no part in the verdict on the Change-Ids of a commit, nor in
its reason. Only the two reasons that come with a hint can be the fault of the server: they are where no
hint can be given, and give the hint in their message else. -/
theorem hint_settings_leave_verdict (policy other : ChangeIdPolicy)
    (world otherWorld : Collaborators) (candidate : Candidate)
    (sameProject : policy.project = other.project) (sameChange : policy.change = other.change) :
    let outcome := (hasChangeId policy).outcome world candidate
    let otherOutcome := (hasChangeId other).outcome otherWorld candidate
    let hinted := ["missing Change-Id in message footer",
      "invalid Change-Id line format in message footer"]
    let unavailable := InstallHint.IsUnavailable policy.hookCommand policy.ssh policy.baseUrl
    outcome.mapError Rejection.reason = otherOutcome.mapError Rejection.reason ∧
    (∀ rejection, outcome = .error rejection → rejection.reason ∈ hinted →
      (rejection.kind = .internal ∧ rejection.messages = [] ↔ unavailable) ∧
      (¬ unavailable → ∃ hint events before after,
        InstallHint.commands world.systemHost policy.hookCommand policy.ssh policy.baseUrl
          policy.user.userName = .ok (hint, events) ∧
        rejection.kind = .policy ∧ rejection.messages = [⟨before ++ hint ++ after, .error⟩])) ∧
    (∀ rejection, outcome = .error rejection → rejection.reason ∉ hinted →
      rejection.kind = .policy) ∧
    hasChangeId { policy with ssh := ⟨policy.ssh.hostKeys.take 1⟩ } = hasChangeId policy := by
  intro outcome otherOutcome hinted unavailable
  refine ⟨policy.mapError_outcome_eq world otherWorld sameProject sameChange, ?_, ?_,
    policy.hasChangeId_first⟩
  · intro rejection rejects listed
    rcases policy.hinted_or_policy world rejects with ⟨_, own⟩ | ⟨unlisted, _⟩
    · obtain ⟨reason, messages, kind⟩ := rejection
      cases own with
      | withoutHint none => exact ⟨iff_of_true ⟨rfl, rfl⟩ none, fun some => absurd none some⟩
      | withHint some found =>
        refine ⟨iff_of_false (fun blamed => ?_) some, fun _ => ⟨_, _, _, _, found, rfl, rfl⟩⟩
        cases blamed.1
    · exact absurd listed unlisted
  · intro rejection rejects unlisted
    rcases policy.hinted_or_policy world rejects with ⟨listed, _⟩ | ⟨_, kind⟩
    · exact absurd listed unlisted
    · exact kind

/-- With an SSH host whose port is none, the server is to blame for the same rejection that gives a hint for
another host. -/
theorem unreadable_port_blames_server :
    let world := (Memory.empty "localhost").collaborators
    let user := User.ofAccount 1
    let person : Person := ⟨"U", "u@x"⟩
    let policy (host : String) : ChangeIdPolicy :=
      ⟨⟨⟨"p"⟩, .active, true, false⟩, user, some "https://r.example/", none, .ofHost host, none⟩
    let candidate : Candidate :=
      (ReceivedCommit.dossier ⟨⟨"refs/for/main", .zero, .zero⟩, ⟨⟨"p"⟩, "refs/heads/main"⟩,
        ⟨.zero, [], person, person, "Fix"⟩, user⟩).candidate world
    let outcome (host : String) := (hasChangeId (policy host)).outcome world candidate
    (policy "r:22:ssh").project = (policy "r:+22").project ∧
    (policy "r:22:ssh").change = (policy "r:+22").change ∧
    (outcome "r:22:ssh").mapError Rejection.reason = (outcome "r:+22").mapError Rejection.reason ∧
    InstallHint.IsUnavailable none (.ofHost "r:22:ssh") (some "https://r.example/") ∧
    outcome "r:22:ssh" = .error ⟨"missing Change-Id in message footer", [], .internal⟩ ∧
    ¬ InstallHint.IsUnavailable none (.ofHost "r:+22") (some "https://r.example/") ∧
    ∃ hint events before after,
      InstallHint.commands "localhost" none (.ofHost "r:+22") (some "https://r.example/") none =
        .ok (hint, events) ∧
      outcome "r:+22" = .error ⟨"missing Change-Id in message footer",
        [⟨before ++ hint ++ after, .error⟩], .policy⟩ := by
  intro world user person policy candidate outcome
  have unavailable : InstallHint.IsUnavailable none (.ofHost "r:22:ssh") (some "https://r.example/") :=
    (InstallHint.commands_fail_iff "localhost" _ _ _ none).mp ⟨.invalidHostKey "r:22:ssh", rfl⟩
  have available : ¬ InstallHint.IsUnavailable none (.ofHost "r:+22") (some "https://r.example/") := by
    rw [← InstallHint.commands_fail_iff "localhost" _ _ _ none]
    rintro ⟨fault, fails⟩
    cases fails
  have same := hint_settings_leave_verdict (policy "r:22:ssh") (policy "r:+22") world world candidate
    rfl rfl
  have hinted := (hint_settings_leave_verdict (policy "r:+22") (policy "r:+22") world world candidate
    rfl rfl).2.1
  have blamed : outcome "r:22:ssh" = .error ⟨"missing Change-Id in message footer", [], .internal⟩ := by
    dsimp only [outcome, world, user, person, policy, candidate]
    rfl
  -- the other host makes for the same reason, with a hint
  have reason : (outcome "r:+22").mapError Rejection.reason =
      .error "missing Change-Id in message footer" := by
    rw [← same.1]
    exact congrArg (Except.mapError Rejection.reason) blamed
  cases rejects : outcome "r:+22" with
  | ok info =>
    rw [rejects] at reason
    cases reason
  | error rejection =>
    rw [rejects] at reason
    have given : rejection.reason = "missing Change-Id in message footer" := Except.error.inj reason
    have listed : rejection.reason ∈ ["missing Change-Id in message footer",
        "invalid Change-Id line format in message footer"] :=
      given ▸ List.mem_cons_self
    obtain ⟨hint, events, before, after, found, kind, messages⟩ :=
      (hinted rejection rejects listed).2 available
    refine ⟨rfl, rfl, rejects ▸ same.1, unavailable, blamed, available, hint, events, before, after,
      found, ?_⟩
    obtain ⟨own, ownMessages, ownKind⟩ := rejection
    cases given
    cases kind
    cases messages
    rfl

end CommitAdmission
