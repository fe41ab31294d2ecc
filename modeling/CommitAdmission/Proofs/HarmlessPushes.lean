import CommitAdmission.Proofs.ConditionFaults
import CommitAdmission.Proofs.Destinations
import CommitAdmission.Proofs.HonestRejections
import CommitAdmission.Proofs.PushedConfigs
import CommitAdmission.Proofs.Run
import Mathlib.Tactic.MkIffOfInductiveProp

namespace CommitAdmission

open Text

theorem CopyCondition.leads_message {query : String} {fault : Fault}
    (fails : check query = .error fault) : Leads acceptedLine .unknown fault.message .foreign := by
  have plain := onOneLine_of_check fails
  have quoted {word : List Char} (single : '\n' ∉ word) :
      Leads acceptedLine .foreign (String.ofList word) .foreign := .of_notMem (by simpa using single)
  cases fault with
  | incomplete => exact leads_literal .unknown .foreign rfl rfl
  | unbalanced => exact leads_literal .unknown .foreign rfl rfl
  | _ =>
    exact ((leads_literal .unknown .foreign rfl rfl).append (quoted plain)).append
      (leads_literal .foreign .foreign rfl rfl)

namespace DryRun

/-- Of the texts that a rejection may quote none has a line that would pass for the one that tells of an
accepted commit. Most texts stand behind words of the rejection, which keep their first lines harmless. -/
@[mk_iff]
structure QuotesHarmless (systemHost : String) (settings : Settings) (push : Push) : Prop where
  system : HarmlessWithin systemHost
  author : HarmlessWithin push.commit.author.email
  committer : HarmlessWithin push.commit.committer.email
  user : ∀ name ∈ push.user.userName, HarmlessWithin name
  addresses : ∀ email ∈ push.user.emails.members, HarmlessWithin email
  sshHost : ∀ key ∈ push.ssh.hostKeys.head?, HarmlessWithin key.host
  allUsers : HarmlessWithin settings.allUsers.name
  allProjects : HarmlessWithin settings.allProjects.name
  configs : ∀ entry ∈ push.configs.entries, ∀ text ∈ entry.2.quotable, HarmlessWithin text
  url : ∀ base ∈ settings.baseUrl, Harmless base
  command : ∀ text ∈ settings.hookCommand, Harmless text

instance (systemHost : String) (settings : Settings) (push : Push) :
    Decidable (QuotesHarmless systemHost settings push) :=
  decidable_of_iff' _ (quotesHarmless_iff systemHost settings push)

section Chains

variable {systemHost : String} {settings : Settings} {push : Push} {told : Memory}

theorem honest_memory (filled : push.memory systemHost = .ok told)
    (quotes : QuotesHarmless systemHost settings push) : told.collaborators.Honest where
  host := by
    have same : told.collaborators.systemHost = systemHost := Push.systemHost_memory filled
    rw [same]
    exact quotes.system
  configs := by
    intro project id config loaded
    obtain ⟨key, listed, _⟩ := (Push.loadConfig_eq_ok_iff filled project id config).mp loaded
    exact quotes.configs _ listed
  failures := by
    intro project id failure failed text said
    rw [((Push.loadConfig_eq_error_iff filled project id failure).mp failed).2] at said
    cases said
  faults := by
    intro condition fault found
    change (CopyCondition.check condition).mapError CopyCondition.Fault.message = .error fault at found
    cases checked : CopyCondition.check condition with
    | ok value =>
      rw [checked] at found
      cases found
    | error own =>
      rw [checked] at found
      cases found
      exact CopyCondition.leads_message checked

def chain (settings : Settings) (scenario : Scenario) (push : Push) : Chain :=
  (factory settings).chain push.request push.project scenario

def verdict (settings : Settings) (scenario : Scenario) (push : Push) (told : Memory) :
    Except Rejection Infos :=
  ((chain settings scenario push).validate told.collaborators push.received.dossier
    ⟨push.patchSet, true⟩).verdict

theorem check_of_memory (filled : push.memory systemHost = .ok told) (scenario : Scenario) :
    check systemHost settings scenario push =
      .ok ⟨push.commit.id, scenario, (chain settings scenario push).fingerprint,
        verdict settings scenario push told⟩ := by
  have cached : told.collaborators.project? push.request.branch.project = some push.project :=
    Push.project?_memory filled
  rw [check, filled]
  simp only [Factory.assemble, cached]
  rfl

theorem exists_memory_of_check {scenario : Scenario} {report : Report}
    (checked : check systemHost settings scenario push = .ok report) :
    ∃ told, push.memory systemHost = .ok told ∧
      report.fingerprint = (chain settings scenario push).fingerprint ∧
      report.verdict = verdict settings scenario push told := by
  cases filled : push.memory systemHost with
  | error invalid =>
    rw [check, filled] at checked
    cases checked
  | ok told =>
    rw [check_of_memory filled] at checked
    cases checked
    exact ⟨told, rfl, rfl, rfl⟩

theorem honest_validators (filled : push.memory systemHost = .ok told)
    (quotes : QuotesHarmless systemHost settings push) (scenario : Scenario) (candidate : Candidate)
    (same : candidate.commit = push.commit) :
    ∀ validator ∈ (chain settings scenario push).validators,
      validator.Honest told.collaborators candidate := by
  have honest := honest_memory filled quotes
  have author : HarmlessWithin candidate.commit.author.email := same ▸ quotes.author
  have committer : HarmlessWithin candidate.commit.committer.email := same ▸ quotes.committer
  have around : ∀ validator ∈ (factory settings).leading push.request push.project ++
      (factory settings).trailing, validator.Honest told.collaborators candidate := by
    intro validator member
    simp only [Factory.leading, Factory.trailing, List.mem_append, List.mem_cons, List.not_mem_nil,
      or_false] at member
    rcases member with (rfl | rfl | rfl | rfl | rfl | rfl | rfl | rfl | rfl | rfl) | rfl | rfl
    · exact honest_uploadMerges _
    · exact honest_projectIsActive _
    · exact honest_serverMerges _ _ author
    · apply Validator.honest_ofCheck
      exact honest_checkPerson _ .author author quotes.addresses quotes.url
    · exact honest_fileCountWithin _ _
    · apply Validator.honest_ofCheck
      exact honest_checkPerson _ .committer committer quotes.addresses quotes.url
    · exact honest_signedOff _ _ _
    · exact honest_hasChangeId ⟨quotes.command, quotes.url, quotes.sshHost, quotes.user⟩ honest.host
    · exact honest_configIsValid honest _ _ quotes.allUsers quotes.allProjects
    · exact honest_isNotBanned
    · exact honest_keepsGroups _
    · exact honest_labelsAreValid honest
  exact (factory settings).forall_validators push.request push.project around
    (List.forall_mem_nil _) scenario

theorem plain_validators (scenario : Scenario) {world : Collaborators} {candidate : Candidate} :
    ∀ validator ∈ (chain settings scenario push).validators, ∀ info,
      validator.outcome world candidate = .ok info → info = .plain := by
  have around : ∀ validator ∈ (factory settings).leading push.request push.project ++
      (factory settings).trailing, validator.BuiltIn := by
    rw [List.forall_mem_append]
    exact ⟨(factory settings).builtIn_leading _ _, (factory settings).builtIn_trailing⟩
  have all := (factory settings).forall_validators push.request push.project around
    (List.forall_mem_nil _) scenario
  exact fun validator member => (all validator member).plain world candidate

theorem eq_plain_of_passed {scenario : Scenario} {world : Collaborators} {candidate : Candidate}
    {before : List Validator} {infos : List Info} (passed : Passed world candidate before infos)
    (part : before ⊆ (chain settings scenario push).validators) : ∀ info ∈ infos, info = .plain := by
  intro info member
  have listed : (.ok info : Except Rejection Info) ∈ before.map (Validator.outcome world candidate) := by
    rw [passed]
    exact List.mem_map_of_mem member
  obtain ⟨validator, own, outcome⟩ := List.mem_map.mp listed
  exact plain_validators scenario validator (part own) info outcome

theorem verdict_not_forges (filled : push.memory systemHost = .ok told)
    (quotes : QuotesHarmless systemHost settings push) {scenario : Scenario} {rejection : Rejection}
    (rejected : verdict settings scenario push told = .error rejection) : ¬ rejection.Forges := by
  obtain ⟨before, validator, after, infos, own, split, first, rfl⟩ :=
    Chain.exists_first_rejection rejected
  have listed : before ++ validator :: after ⊆ (chain settings scenario push).validators := by
    rw [split]
    exact List.Subset.refl _
  have silent : infos.flatMap Info.messages = [] := by
    rw [List.flatMap_eq_nil_iff]
    intro info member
    rw [eq_plain_of_passed first.passed (fun _ own => listed (List.mem_append_left _ own)) info member]
    rfl
  rw [silent, List.nil_append]
  exact honest_validators filled quotes scenario _ rfl validator
    (listed (List.mem_append_right _ List.mem_cons_self)) own first.rejected

end Chains

end DryRun

end CommitAdmission
