import CommitAdmission.Proofs.ChangeIdVerdicts
import CommitAdmission.Proofs.EmbeddedTexts
import CommitAdmission.Proofs.HostNames

namespace CommitAdmission

open Text

def ProjectConfig.quotable (config : ProjectConfig) : List String :=
  config.problems ++ config.labels.flatMap fun label => label.name :: label.copyCondition.toList

structure Collaborators.Honest (world : Collaborators) : Prop where
  host : HarmlessWithin world.systemHost
  configs {project : ProjectName} {id : ObjectId} {config : ProjectConfig} :
    world.loadConfig project id = .ok config → ∀ text ∈ config.quotable, HarmlessWithin text
  failures {project : ProjectName} {id : ObjectId} {failure : ConfigFailure} :
    world.loadConfig project id = .error failure → ∀ text ∈ failure.userMessage?, Harmless text
  faults {condition fault : String} :
    world.checkCondition condition = .error fault → Leads acceptedLine .unknown fault .foreign

def Validator.Honest (world : Collaborators) (candidate : Candidate) (validator : Validator) : Prop :=
  ∀ rejection, validator.outcome world candidate = .error rejection → ¬ rejection.Forges

variable {world : Collaborators} {candidate : Candidate}

theorem Validator.honest_ofCheck (name : String) {check : Collaborators → Candidate → Check Unit}
    (honest : (check world candidate).Honest) : (ofCheck name check).Honest world candidate := by
  intro rejection rejects
  rw [outcome_ofCheck] at rejects
  cases outcome : (check world candidate).outcome with
  | ok value =>
    rw [outcome] at rejects
    cases rejects
  | error own =>
    rw [outcome] at rejects
    cases rejects
    exact honest rejection outcome

namespace Rejection

theorem not_forges_plain {reason : String} (harmless : Harmless reason) (kind : RejectionKind) :
    ¬ (Rejection.mk reason [] kind).Forges := not_forges harmless (List.forall_mem_nil _)

theorem not_forges_literal {reason : String} {letters : List Char}
    (spelled : reason = String.ofList letters)
    (scanned : LastLine.empty.scan acceptedLine letters = some .foreign) (kind : RejectionKind) :
    ¬ (Rejection.mk reason [] kind).Forges :=
  not_forges_plain (harmless_literal .foreign spelled scanned (by decide)) kind

theorem not_forges_message {reason : String} (harmless : Harmless reason) {message : Message}
    (own : Harmless message.text) : ¬ (policyWith reason [message]).Forges :=
  not_forges harmless (List.forall_mem_singleton.mpr own)

theorem not_forges_texts {reason : String} (harmless : Harmless reason) {texts : List String}
    (each : ∀ text ∈ texts, Harmless text) :
    ¬ (policyWith reason (texts.map Message.ofError)).Forges :=
  not_forges harmless (List.forall_mem_map.mpr each)

end Rejection

theorem leads_id {mark : List Char} (id : ObjectId) : Leads mark .foreign id.name .foreign := by
  apply Leads.of_notMem
  intro member
  have digit : isLowerHex '\n' = true := List.all_eq_true.mp id.canonical.2 _ member
  exact absurd digit (by decide)

theorem leads_decimal (value : Nat) : Leads acceptedLine .foreign (decimalText value) .foreign := by
  apply Leads.of_notMem
  rw [decimalText, String.toList_ofList]
  exact newline_notMem_decimal value

section Gates

theorem honest_askPermission (ref : String) (permission : Permission) :
    (askPermission world ref permission).Honest := by
  intro rejection rejects
  rw [outcome_askPermission] at rejects
  cases answer : world.isGranted ref permission with
  | ok granted =>
    rw [answer] at rejects
    cases rejects
  | error failure =>
    rw [answer] at rejects
    cases rejects
    exact Rejection.not_forges_literal rfl rfl _

theorem honest_demandPermission (ref : String) (permission : Permission) {rejection : Rejection}
    (honest : ¬ rejection.Forges) :
    Check.Honest
      (askPermission world ref permission >>= fun granted => Check.require granted rejection) :=
  (honest_askPermission ref permission).bind fun granted _ => Check.honest_require granted honest

theorem honest_demandIf (condition : Bool) (ref : String) (permission : Permission)
    {rejection : Rejection} (honest : condition = true → ¬ rejection.Forges) :
    Check.Honest
      (if condition = true then
        askPermission world ref permission >>= fun granted => Check.require granted rejection
      else pure ()) := by
  split
  · rename_i holds
    exact honest_demandPermission ref permission (honest holds)
  · exact Check.honest_pure ()

theorem honest_uploadMerges (ref : String) : (uploadMerges ref).Honest world candidate := by
  apply Validator.honest_ofCheck
  exact honest_demandIf _ _ _ fun _ => Rejection.not_forges_literal rfl rfl _

theorem honest_projectIsActive (project : ProjectState) :
    (projectIsActive project).Honest world candidate := by
  apply Validator.honest_ofCheck
  apply Check.honest_require
  exact Rejection.not_forges_literal rfl rfl _

theorem honest_keepsGroups (allUsers : ProjectName) :
    (keepsGroups allUsers).Honest world candidate := by
  apply Validator.honest_ofCheck
  apply Check.honest_require
  exact Rejection.not_forges_literal rfl rfl _

theorem honest_isNotBanned : isNotBanned.Honest world candidate := by
  have banned : Harmless ("contains banned commit " ++ candidate.commit.id.name) :=
    harmless_of_leads .foreign
      ((leads_literal .empty .foreign rfl rfl).append (leads_id _)) (by decide)
  apply Validator.honest_ofCheck
  simp only
  split
  · exact Check.honest_require _ (Rejection.not_forges_plain banned _)
  · apply (Check.honest_perform _).bind
    intro _ _
    apply Check.honest_reject
    exact Rejection.not_forges_literal rfl rfl _

theorem honest_fileCountWithin (maxFiles : UInt64) (baseUrl : Option String) :
    (fileCountWithin maxFiles baseUrl).Honest world candidate := by
  have exceeded (files : Nat) : Harmless <|
      "Exceeding maximum number of files per change (" ++ decimalText files ++ " > " ++
        decimalText maxFiles.toNat ++ ")" :=
    harmless_of_leads .foreign
      ((leads_literal .empty .foreign rfl rfl).append (leads_decimal files)
        |>.append (leads_literal .foreign .foreign rfl rfl)
        |>.append (leads_decimal _)
        |>.append (leads_literal .foreign .foreign rfl rfl))
      (by decide)
  apply Validator.honest_ofCheck
  split
  · exact Check.honest_pure ()
  · have counted : candidate.countChanged.Honest :=
      (Check.honest_perform _).bind fun _ _ => Check.honest_pure _
    apply counted.bind
    intro answer _
    split
    · split
      · exact Check.honest_perform _
      · exact Check.honest_pure ()
    · apply (Check.honest_require _ (Rejection.not_forges_plain (exceeded _) _)).bind
      intro _ _
      split
      · apply (Check.honest_perform _).bind
        intro _ _
        exact (Check.honest_perform _).bind fun _ _ => Check.honest_perform _
      · exact Check.honest_pure ()

end Gates

section People

variable (ref : String)

theorem honest_serverMerges (server : Person) (author : HarmlessWithin candidate.commit.author.email) :
    (serverMerges ref server).Honest world candidate := by
  apply Validator.honest_ofCheck
  apply honest_demandIf
  intro merged
  have same : candidate.commit.author = server := eq_of_beq (Bool.and_eq_true_iff.mp merged).2
  refine Rejection.not_forges_plain (harmless_of_leads .foreign ?_ (by decide)) _
  rw [same] at author
  exact (leads_literal .empty .foreign rfl rfl).append (leads_id _)
    |>.append (leads_literal .foreign .foreign rfl rfl)
    |>.append (leads_quoted author)
    |>.append (leads_literal .other .foreign rfl rfl)
    |>.append (leads_literal .foreign .foreign rfl rfl)
    |>.append (leads_literal .foreign .foreign rfl rfl)

theorem leads_role (role : Role) : Leads acceptedLine .foreign role.name .foreign := by
  cases role <;> exact leads_literal _ _ rfl rfl

theorem harmless_unregisteredEmail (role : Role) {person : Person} {user : User}
    {baseUrl : Option String} (address : HarmlessWithin person.email)
    (addresses : ∀ email ∈ user.emails.members, HarmlessWithin email)
    (url : ∀ base ∈ baseUrl, Harmless base) :
    Harmless (unregisteredEmail role.name person user baseUrl).text := by
  unfold unregisteredEmail
  apply harmless_of_leads .empty _ (by decide)
  refine Leads.append (Leads.append (?words : Leads acceptedLine .empty _ .empty)
    (?listed : Leads acceptedLine .empty _ .empty)) ?page
  case words =>
    exact (leads_literal .empty .foreign rfl rfl).append (leads_quoted address)
      |>.append (leads_literal .other .foreign rfl rfl) |>.append (leads_role role)
      |>.append (leads_literal .foreign .empty rfl rfl)
  case listed =>
    split
    · exact leads_literal .empty .empty rfl rfl
    · apply (leads_literal .empty .empty rfl rfl).append
      apply Leads.join
      rw [List.forall_mem_map]
      intro email registered
      exact (leads_literal .empty .foreign rfl rfl).append
        (leads_quoted (addresses email registered))
        |>.append (leads_literal .other .empty rfl rfl)
  case page =>
    split
    · exact leads_literal .empty .empty rfl rfl
    · rename_i base
      have whole : Leads acceptedLine .empty base .other := .of_not_hasMark (url base rfl)
      have page : Leads acceptedLine .empty (Settings.pageUrl base "EmailAddresses") .foreign :=
        (whole.append (leads_literal .other .foreign rfl rfl)).append
          (leads_literal .foreign .foreign rfl rfl)
      exact (leads_literal .empty .empty rfl rfl).append page
        |>.append (leads_literal .foreign .empty rfl rfl)

theorem honest_checkPerson (role : Role) {user : User} {baseUrl : Option String}
    (address : HarmlessWithin (role.person candidate.commit).email)
    (addresses : ∀ email ∈ user.emails.members, HarmlessWithin email)
    (url : ∀ base ∈ baseUrl, Harmless base) :
    (checkPerson role ref user baseUrl world candidate).Honest := by
  have reason : Harmless ("invalid " ++ role.name) :=
    harmless_of_leads .foreign
      ((leads_literal .empty .foreign rfl rfl).append (leads_role role)) (by decide)
  have message := harmless_unregisteredEmail role address addresses url
  simp only [checkPerson]
  split
  · exact Check.honest_pure ()
  · apply honest_demandPermission
    exact Rejection.not_forges_message reason message

theorem honest_signedOff (user : User) (project : ProjectState) :
    (signedOff ref user project).Honest world candidate := by
  apply Validator.honest_ofCheck
  exact honest_demandIf _ _ _ fun _ => Rejection.not_forges_literal rfl rfl _

end People

section ChangeIds

namespace InstallHint

theorem leads_httpCommand {base : String} (url : HarmlessWithin base) {before : LastLine}
    (start : before = .empty ∨ before = .foreign) :
    Leads acceptedLine before (httpCommand base) .foreign := by
  unfold httpCommand
  refine Leads.append (Leads.append (?words : Leads acceptedLine before _ .foreign)
    (leads_quoted url)) (leads_literal .other .foreign rfl rfl)
  rcases start with rfl | rfl <;> exact leads_literal _ _ rfl rfl

/-- The host may be cut from a text that it is quoted from, so nothing is known of its end. -/
theorem leads_sshAddress {system base : String} {key : HostKey} {address : String × Nat × List TraceEvent}
    (own : HarmlessWithin system) (listed : HarmlessWithin key.host)
    (read : sshAddress system base key = .ok address) :
    Leads acceptedLine .foreign address.1 .unknown := by
  have server : Leads acceptedLine .foreign (serverHost system (some base)).1 .unknown := by
    rcases serverHost_eq_or_notMem system (some base) with same | plain
    · rw [same]
      exact (leads_quoted own).forget
    · exact (Leads.of_notMem plain).forget
  unfold sshAddress at read
  split at read
  · cases read
    exact (leads_quoted listed).forget
  · rename_i host port halves
    split at read
    · cases read
    · split at read
      · cases read
        exact server
      · cases read
        apply Leads.of_prefix _ listed
        rw [String.toList_ofList, (append_of_splitLast? halves).1]
        exact List.prefix_append _ _

theorem leads_scpCommand {user host : String} (named : HarmlessWithin user)
    (leads : Leads acceptedLine .foreign host .unknown) (port : Nat) :
    Leads acceptedLine .foreign (scpCommand user host port) .foreign :=
  (leads_literal .foreign .foreign rfl rfl).append (leads_decimal port)
    |>.append (leads_literal .foreign .foreign rfl rfl) |>.append (leads_quoted named)
    |>.append (leads_literal .other .foreign rfl rfl) |>.append leads
    |>.append (leads_literal .unknown .foreign rfl rfl)

theorem harmless_commands {system : String} {configured : Option String} {ssh : SshInfo}
    {webUrl user : Option String} {hint : String × List TraceEvent} (own : HarmlessWithin system)
    (command : ∀ text ∈ configured, Harmless text)
    (first : ∀ key ∈ ssh.hostKeys.head?, HarmlessWithin key.host)
    (url : ∀ base ∈ webUrl, Harmless base) (named : ∀ name ∈ user, HarmlessWithin name)
    (given : commands system configured ssh webUrl user = .ok hint) : Harmless hint.1 := by
  unfold commands at given
  split at given
  · cases given
    exact command _ rfl
  · cases given
  · rename_i base
    have within : HarmlessWithin base := (url base rfl).within
    split at given
    · cases given
      exact harmless_of_leads .foreign (leads_httpCommand within (.inl rfl)) (by decide)
    · rename_i key others listed
      have host : HarmlessWithin key.host := first key (by rw [listed, List.head?_cons, Option.mem_def])
      have name : HarmlessWithin (user.getD "<USERNAME>") := by
        cases user with
        | none => exact not_hasLaterMark_of_notMem (by decide)
        | some name => exact named name rfl
      cases read : sshAddress system base key with
      | error fault =>
        rw [read] at given
        cases given
      | ok address =>
        rw [read] at given
        cases given
        apply harmless_of_leads .foreign _ (by decide)
        exact (leads_literal .empty .foreign rfl rfl).append
            (leads_scpCommand name (leads_sshAddress own host read) _)
          |>.append (leads_literal .foreign .empty rfl rfl)
          |>.append (leads_literal .empty .foreign rfl rfl)
          |>.append (leads_httpCommand within (.inr rfl))

end InstallHint

namespace ChangeId

theorem harmless_hintMessage {reason commands : String}
    (words : Leads acceptedLine .empty reason .foreign) (hint : Harmless commands) :
    Harmless (hintMessage reason commands).text := by
  have whole : Leads acceptedLine .empty commands .other := .of_not_hasMark hint
  apply harmless_of_leads .empty _ (by decide)
  exact words.append (leads_literal .foreign .empty rfl rfl) |>.append whole
    |>.append (leads_literal .other .empty rfl rfl)
    |>.append (leads_literal .empty .empty rfl rfl)

theorem not_forges_aboveFooterRejection : ¬ aboveFooterRejection.Forges := by
  have words : Leads acceptedLine .empty aboveFooter .foreign := leads_literal _ _ rfl rfl
  apply Rejection.not_forges_message (harmless_of_leads .foreign words (by decide))
  apply harmless_of_leads .empty _ (by decide)
  exact words.append (leads_literal .foreign .empty rfl rfl)
    |>.append (leads_literal .empty .empty rfl rfl)

theorem not_forges_multipleRejection {ids : List String} (plain : ∀ id ∈ ids, '\n' ∉ id.toList) :
    ¬ (multipleRejection ids).Forges := by
  have words : Leads acceptedLine .empty multiple .foreign := leads_literal _ _ rfl rfl
  have lines : ∀ line ∈ ids.map listed, Leads acceptedLine .empty (String.ofList line) .foreign := by
    rw [List.forall_mem_map]
    intro id given
    have text : String.ofList (listed id) =
        "* " ++ id ++ (if isValid id.toList then " [VALID]" else " [INVALID]") := by
      rw [listed, String.ofList_append, String.ofList_append, String.ofList_toList,
        String.ofList_toList, String.ofList_toList]
    rw [text]
    apply Leads.append
    · exact (leads_literal .empty .foreign rfl rfl).append (.of_notMem (plain id given))
    · split <;> exact leads_literal _ _ rfl rfl
  apply Rejection.not_forges_message (harmless_of_leads .foreign words (by decide))
  apply harmless_of_leads .empty _ (by decide)
  exact words.append (leads_literal .foreign .empty rfl rfl)
    |>.append (.joinLines acceptedLine_ne_nil lines)
    |>.append (leads_literal .other .empty rfl rfl)

end ChangeId

namespace ChangeIdPolicy

open ChangeId

structure Honest (policy : ChangeIdPolicy) : Prop where
  command : ∀ text ∈ policy.hookCommand, Harmless text
  url : ∀ base ∈ policy.baseUrl, Harmless base
  host : ∀ key ∈ policy.ssh.hostKeys.head?, HarmlessWithin key.host
  user : ∀ name ∈ policy.user.userName, HarmlessWithin name

variable {policy : ChangeIdPolicy}

theorem honest_rejectWithHint (honest : policy.Honest) (host : HarmlessWithin world.systemHost)
    {reason : String} (words : Leads acceptedLine .empty reason .foreign) :
    (policy.rejectWithHint world reason).Honest := by
  have harmless : Harmless reason := harmless_of_leads .foreign words (by decide)
  unfold rejectWithHint
  split
  · rename_i hint events given
    have commands : Harmless hint :=
      InstallHint.harmless_commands host honest.command honest.host honest.url honest.user given
    apply (Check.honest_perform _).bind
    intro _ _
    exact Check.honest_reject
      (Rejection.not_forges_message harmless (harmless_hintMessage words commands))
  · apply (Check.honest_perform _).bind
    intro _ _
    exact Check.honest_reject (Rejection.not_forges_plain harmless _)

theorem honest_check (honest : policy.Honest) (host : HarmlessWithin world.systemHost) :
    (policy.check world candidate).Honest := by
  have hinted {reason : String} (words : Leads acceptedLine .empty reason .foreign) :=
    honest_rejectWithHint honest host words
  have stated {reason : String} (harmless : Harmless reason) :
      (Check.reject (.policy reason) : Check Unit).Honest :=
    Check.honest_reject (Rejection.not_forges_plain harmless _)
  simp only [check]
  split
  · exact Check.honest_pure ()
  · split
    case h_1 =>
      split
      · exact stated (harmless_literal .foreign rfl rfl (by decide))
      · split
        · exact Check.honest_reject not_forges_aboveFooterRejection
        · split
          · exact hinted (leads_literal _ _ rfl rfl)
          · exact Check.honest_pure ()
    case h_2 =>
      split
      · exact hinted (leads_literal _ _ rfl rfl)
      · split
        · exact stated (harmless_literal .foreign rfl rfl (by decide))
        · exact Check.honest_pure ()
    case h_3 =>
      apply Check.honest_reject
      apply not_forges_multipleRejection
      intro id member
      exact (trim_of_mem_footerValues member).2

end ChangeIdPolicy

theorem honest_hasChangeId {policy : ChangeIdPolicy} (honest : policy.Honest)
    (host : HarmlessWithin world.systemHost) : (hasChangeId policy).Honest world candidate :=
  Validator.honest_ofCheck _ (ChangeIdPolicy.honest_check honest host)

end ChangeIds

section Configs

theorem not_forges_invalidConfigWith {details : List String}
    (each : ∀ text ∈ details, Leads acceptedLine .foreign text .other) :
    ¬ (invalidConfigWith details).Forges := by
  have title : Harmless invalidConfig := harmless_literal .foreign rfl rfl (by decide)
  apply Rejection.not_forges_texts title
  intro text member
  rcases List.mem_cons.mp member with rfl | indented
  · exact harmless_literal .foreign rfl rfl (by decide)
  · obtain ⟨detail, given, rfl⟩ := List.mem_map.mp indented
    exact harmless_of_leads .other
      ((leads_literal .empty .foreign rfl rfl).append (each detail given)) (by decide)

theorem honest_configIsValid (honest : world.Honest) (branch : Branch) (user : User)
    {allUsers allProjects : ProjectName} (users : HarmlessWithin allUsers.name)
    (root : HarmlessWithin allProjects.name) :
    (configIsValid branch user allUsers allProjects).Honest world candidate := by
  have title : Harmless invalidConfig := harmless_literal .foreign rfl rfl (by decide)
  have inherits : Leads acceptedLine .foreign
      (allUsers.name ++ " must inherit from " ++ allProjects.name) .other :=
    ((leads_quoted users).append (leads_literal .other .foreign rfl rfl)).append
      (leads_quoted root)
  apply Validator.honest_ofCheck
  split
  · exact Check.honest_pure ()
  · split
    · rename_i failure failed
      apply (Check.honest_perform _).bind
      intro _ _
      apply Check.honest_reject
      apply Rejection.not_forges_texts title
      exact fun text told => honest.failures failed text (Option.mem_toList.mp told)
    · rename_i config loaded
      have problems : ∀ text ∈ config.problems, Leads acceptedLine .foreign text .other :=
        fun text listed => leads_quoted (honest.configs loaded text (List.mem_append_left _ listed))
      apply (Check.honest_require _ (not_forges_invalidConfigWith problems)).bind
      intro _ _
      exact Check.honest_require _
        (not_forges_invalidConfigWith (List.forall_mem_singleton.mpr inherits))

theorem leads_deprecatedFlag :
    ∀ flag ∈ deprecatedFlags, Leads acceptedLine .foreign flag .foreign := by
  have plain : ∀ flag ∈ deprecatedFlags, '\n' ∉ flag.toList := by decide +kernel
  exact fun flag listed => .of_notMem (plain flag listed)

theorem harmless_conditionProblem (honest : world.Honest) {label : Label}
    (named : HarmlessWithin label.name) (queried : ∀ text ∈ label.copyCondition, HarmlessWithin text) :
    ∀ text ∈ conditionProblems world label, Harmless text := by
  intro text member
  unfold conditionProblems at member
  split at member
  · cases member
  · rename_i condition given
    split at member
    · cases member
    · rename_i fault found
      rw [List.mem_singleton.mp member]
      apply harmless_of_leads .foreign _ (by decide)
      exact (leads_literal .empty .foreign rfl rfl).append
          (leads_quoted (queried condition given))
        |>.append (leads_literal .other .foreign rfl rfl) |>.append (leads_quoted named)
        |>.append (leads_literal .other .unknown rfl rfl) |>.append (honest.faults found)

theorem harmless_flagProblem (old : Option ProjectConfig) {label : Label}
    (named : HarmlessWithin label.name) : ∀ text ∈ flagProblems old label, Harmless text := by
  intro text member
  obtain ⟨flag, filtered, rfl⟩ := List.mem_map.mp member
  have deprecated : flag ∈ deprecatedFlags := by
    have conditions := Bool.and_eq_true_iff.mp (List.mem_filter.mp filtered).2
    exact List.contains_iff_mem.mp conditions.1
  apply harmless_of_leads .foreign _ (by decide)
  exact (leads_literal .empty .foreign rfl rfl).append (leads_quoted named)
    |>.append (leads_literal .other .foreign rfl rfl)
    |>.append (leads_deprecatedFlag flag deprecated)
    |>.append (leads_literal .foreign .foreign rfl rfl) |>.append (leads_quoted named)
    |>.append (leads_literal .other .foreign rfl rfl)

theorem honest_labelsAreValid (honest : world.Honest) : labelsAreValid.Honest world candidate := by
  have title : Harmless invalidConfig := harmless_literal .foreign rfl rfl (by decide)
  have previous : (previousConfig world candidate).Honest := by
    unfold previousConfig
    split
    · exact Check.honest_pure _
    · split
      · exact Check.honest_pure _
      · exact (Check.honest_perform _).bind fun _ _ => Check.honest_pure _
  apply Validator.honest_ofCheck
  split
  · exact Check.honest_pure ()
  · split
    · exact Check.honest_pure ()
    · rename_i config loaded
      apply previous.bind
      intro old _
      apply Check.honest_require
      apply Rejection.not_forges_texts title
      intro text member
      obtain ⟨label, listed, found⟩ := List.mem_flatMap.mp member
      have quoted : ∀ text ∈ label.name :: label.copyCondition.toList, HarmlessWithin text :=
        fun text given => honest.configs loaded text
          (List.mem_append_right _ (List.mem_flatMap.mpr ⟨label, listed, given⟩))
      obtain ⟨named, queried⟩ := List.forall_mem_cons.mp quoted
      rcases List.mem_append.mp found with condition | flag
      · exact harmless_conditionProblem honest named
          (fun text given => queried text (Option.mem_toList.mpr given)) text condition
      · exact harmless_flagProblem old named text flag

end Configs

end CommitAdmission
