import CommitAdmission.Proofs.BuiltIn
import CommitAdmission.Proofs.Lifecycle

/-! What the validators of the server take and what they say. But for the one that limits the number of
files, they leave the diff and the metrics alone. A check that blames the server says why in its last
event, as an error; the validator of configurations says so of a configuration that does not load; and
there are no other errors. -/

namespace CommitAdmission

def Act.IsFrugal : Act → Prop
  | .countedFiles | .measured _ => False
  | .askedPermission _ _ | .emitted _ | .calledPlugin _ => True

theorem serverHost_warns (system : String) (webUrl : Option String) :
    ∀ event ∈ (serverHost system webUrl).2, event.level = .warn := by
  intro event member
  unfold serverHost at member
  split at member
  · cases member
  · split at member
    · cases member
    · cases member
    · rw [List.mem_singleton.mp member]
      rfl

namespace InstallHint

theorem sshAddress_warns {system webUrl : String} {key : HostKey} {host : String} {port : Nat}
    {events : List TraceEvent} (given : sshAddress system webUrl key = .ok (host, port, events)) :
    ∀ event ∈ events, event.level = .warn := by
  unfold sshAddress at given
  split at given
  · cases given
    exact List.forall_mem_nil _
  · split at given
    · cases given
    · split at given
      · cases given
        exact serverHost_warns system (some webUrl)
      · cases given
        exact List.forall_mem_nil _

theorem commands_warn {system : String} {configured : Option String} {ssh : SshInfo}
    {webUrl user : Option String} {text : String} {events : List TraceEvent}
    (given : commands system configured ssh webUrl user = .ok (text, events)) :
    ∀ event ∈ events, event.level = .warn := by
  unfold commands at given
  split at given
  · cases given
    exact List.forall_mem_nil _
  · cases given
  · split at given
    · cases given
      exact List.forall_mem_nil _
    · rename_i key _ _
      cases address : sshAddress system _ key with
      | error fault =>
        rw [address] at given
        cases given
      | ok found =>
        rw [address] at given
        cases given
        exact sshAddress_warns address

end InstallHint

namespace Check

variable {α β : Type} {check : Check α} {next : α → Check β}

theorem emitted_bind_of_ok {value : α} (passes : check.outcome = .ok value) :
    (check >>= next).emitted = check.emitted ++ (next value).emitted := by
  rw [emitted, acts_bind_of_ok passes, List.filterMap_append]
  rfl

theorem emitted_bind_of_error {rejection : Rejection} (rejects : check.outcome = .error rejection) :
    (check >>= next).emitted = check.emitted := by
  rw [emitted, acts_bind_of_error rejects, emitted]

theorem emitted_perform_events (events : List TraceEvent) :
    (perform (events.map .emitted)).emitted = events := by
  rw [emitted, acts_perform, List.filterMap_map]
  exact List.filterMap_some

def Calm (check : Check α) : Prop := ∀ event ∈ check.emitted, event.level ≠ .error

/-- How a check tells of failures: if it blames the server, its last event is an error, no other is. -/
inductive Accountable (check : Check α) : Prop
  | passed {value : α} : check.outcome = .ok value → check.Calm → Accountable check
  | rejected {rejection : Rejection} : check.outcome = .error rejection →
      rejection.kind = .policy → check.Calm → Accountable check
  | failed {rejection : Rejection} {said : List TraceEvent} {event : TraceEvent} :
      check.outcome = .error rejection → rejection.kind = .internal →
      check.emitted = said ++ [event] → event.level = .error →
      (∀ other ∈ said, other.level ≠ .error) → Accountable check

theorem Accountable.bind (first : check.Accountable) (others : ∀ value, (next value).Accountable) :
    (check >>= next).Accountable := by
  -- What comes next is reached from a calm check only, so the error of a failure stays the last event.
  cases first with
  | @passed value passes calm =>
    have outcome : (check >>= next).outcome = (next value).outcome := by
      rw [outcome_bind, passes]
      rfl
    have emitted : (check >>= next).emitted = check.emitted ++ (next value).emitted :=
      emitted_bind_of_ok passes
    have both (also : (next value).Calm) : (check >>= next).Calm := by
      rw [Calm, emitted]
      exact List.forall_mem_append.mpr ⟨calm, also⟩
    cases others value with
    | passed own also => exact .passed (outcome.trans own) (both also)
    | rejected own policy also => exact .rejected (outcome.trans own) policy (both also)
    | failed own internal said loud quiet =>
      rw [said, ← List.append_assoc] at emitted
      exact .failed (outcome.trans own) internal emitted loud
        (List.forall_mem_append.mpr ⟨calm, quiet⟩)
  | @rejected rejection rejects policy calm =>
    have outcome : (check >>= next).outcome = .error rejection := by
      rw [outcome_bind, rejects]
      rfl
    refine .rejected outcome policy ?_
    rw [Calm, emitted_bind_of_error rejects]
    exact calm
  | @failed rejection said event rejects internal last loud quiet =>
    have outcome : (check >>= next).outcome = .error rejection := by
      rw [outcome_bind, rejects]
      rfl
    exact .failed outcome internal ((emitted_bind_of_error rejects).trans last) loud quiet

structure Orderly (check : Check α) : Prop where
  frugal : check.ActsWithin Act.IsFrugal
  accountable : check.Accountable

theorem Orderly.bind (first : check.Orderly) (others : ∀ value, (next value).Orderly) :
    (check >>= next).Orderly where
  frugal := first.frugal.bind fun value => (others value).frugal
  accountable := first.accountable.bind fun value => (others value).accountable

theorem orderly_pure (value : α) : (pure value : Check α).Orderly where
  frugal := actsWithin_pure value
  accountable := .passed rfl (List.forall_mem_nil _)

theorem orderly_reject {rejection : Rejection} (policy : rejection.kind = .policy) :
    (reject rejection : Check α).Orderly where
  frugal := actsWithin_reject rejection
  accountable := .rejected rfl policy (List.forall_mem_nil _)

theorem orderly_require (condition : Bool) {rejection : Rejection}
    (policy : rejection.kind = .policy) : (require condition rejection).Orderly := by
  cases condition
  · exact orderly_reject policy
  · exact orderly_pure ()

theorem orderly_emitAll {events : List TraceEvent} (calm : ∀ event ∈ events, event.level ≠ .error) :
    (perform (events.map .emitted)).Orderly where
  frugal := by
    apply actsWithin_perform
    intro act member
    obtain ⟨event, _, rfl⟩ := List.mem_map.mp member
    trivial
  accountable := by
    refine .passed rfl ?_
    rw [Calm, emitted_perform_events]
    exact calm

theorem orderly_emit {event : TraceEvent} (calm : event.level ≠ .error) : (emit event).Orderly :=
  orderly_emitAll (List.forall_mem_singleton.mpr calm)

theorem orderly_fail {event : TraceEvent} {rejection : Rejection} (loud : event.level = .error)
    (internal : rejection.kind = .internal) :
    (emit event >>= fun _ => (reject rejection : Check α)).Orderly where
  frugal := (actsWithin_performOne trivial).bind fun _ => actsWithin_reject rejection
  accountable := .failed rfl internal (List.nil_append [event]).symm loud (List.forall_mem_nil _)

end Check

def Validator.Orderly (validator : Validator) : Prop :=
  ∀ world candidate, (validator.judge world candidate).Orderly

theorem Validator.orderly_ofCheck (name : String) {check : Collaborators → Candidate → Check Unit}
    (orderly : ∀ world candidate, (check world candidate).Orderly) : (ofCheck name check).Orderly :=
  fun world candidate => (orderly world candidate).bind fun _ => Check.orderly_pure _

theorem orderly_askPermission (world : Collaborators) (ref : String) (permission : Permission) :
    (askPermission world ref permission).Orderly := by
  apply Check.Orderly.bind
  · exact ⟨Check.actsWithin_performOne trivial, .passed rfl (List.forall_mem_nil _)⟩
  · intro _
    split
    · exact Check.orderly_pure _
    · exact Check.orderly_fail rfl rfl

theorem orderly_demandPermission (world : Collaborators) (ref : String) (permission : Permission)
    {rejection : Rejection} (policy : rejection.kind = .policy) :
    (askPermission world ref permission >>= fun granted =>
      Check.require granted rejection).Orderly :=
  (orderly_askPermission world ref permission).bind fun granted =>
    Check.orderly_require granted policy

theorem orderly_demandIf (condition : Bool) (world : Collaborators) (ref : String)
    (permission : Permission) {rejection : Rejection} (policy : rejection.kind = .policy) :
    Check.Orderly
      (if condition = true then
        askPermission world ref permission >>= fun granted => Check.require granted rejection
      else pure ()) := by
  split
  · exact orderly_demandPermission world ref permission policy
  · exact Check.orderly_pure ()

theorem orderly_uploadMerges (ref : String) : (uploadMerges ref).Orderly := by
  apply Validator.orderly_ofCheck
  intro world candidate
  exact orderly_demandIf _ world ref .merge rfl

theorem orderly_projectIsActive (project : ProjectState) : (projectIsActive project).Orderly := by
  apply Validator.orderly_ofCheck
  intro world candidate
  exact Check.orderly_require _ rfl

theorem orderly_serverMerges (ref : String) (server : Person) :
    (serverMerges ref server).Orderly := by
  apply Validator.orderly_ofCheck
  intro world candidate
  exact orderly_demandIf _ world ref .forgeServer rfl

theorem orderly_checkPerson (role : Role) (ref : String) (user : User) (baseUrl : Option String)
    (world : Collaborators) (candidate : Candidate) :
    (checkPerson role ref user baseUrl world candidate).Orderly := by
  simp only [checkPerson]
  split
  · exact Check.orderly_pure ()
  · exact orderly_demandPermission world ref role.permission rfl

theorem orderly_authorIsUploader (ref : String) (user : User) (baseUrl : Option String) :
    (authorIsUploader ref user baseUrl).Orderly :=
  Validator.orderly_ofCheck _ (orderly_checkPerson .author ref user baseUrl)

theorem orderly_committerIsUploader (ref : String) (user : User) (baseUrl : Option String) :
    (committerIsUploader ref user baseUrl).Orderly :=
  Validator.orderly_ofCheck _ (orderly_checkPerson .committer ref user baseUrl)

theorem orderly_signedOff (ref : String) (user : User) (project : ProjectState) :
    (signedOff ref user project).Orderly := by
  apply Validator.orderly_ofCheck
  intro world candidate
  exact orderly_demandIf _ world ref .forgeCommitter rfl

theorem ChangeIdPolicy.orderly_rejectWithHint (policy : ChangeIdPolicy) (world : Collaborators)
    (reason : String) : (policy.rejectWithHint world reason).Orderly := by
  unfold rejectWithHint
  split
  · rename_i commands events given
    have calm : ∀ event ∈ events, event.level ≠ .error := by
      intro event member
      rw [InstallHint.commands_warn given event member]
      decide
    exact (Check.orderly_emitAll calm).bind fun _ => Check.orderly_reject rfl
  · exact Check.orderly_fail rfl rfl

theorem orderly_hasChangeId (policy : ChangeIdPolicy) : (hasChangeId policy).Orderly := by
  apply Validator.orderly_ofCheck
  intro world candidate
  simp only [ChangeIdPolicy.check]
  split
  · exact Check.orderly_pure ()
  · split
    case h_1 =>
      split
      · exact Check.orderly_reject rfl
      · split
        · exact Check.orderly_reject rfl
        · split
          · exact policy.orderly_rejectWithHint world _
          · exact Check.orderly_pure ()
    case h_2 =>
      split
      · exact policy.orderly_rejectWithHint world _
      · split
        · exact Check.orderly_reject rfl
        · exact Check.orderly_pure ()
    case h_3 => exact Check.orderly_reject rfl

theorem orderly_isNotBanned : isNotBanned.Orderly := by
  apply Validator.orderly_ofCheck
  intro world candidate
  simp only
  split
  · exact Check.orderly_require _ rfl
  · exact Check.orderly_fail rfl rfl

theorem orderly_keepsGroups (allUsers : ProjectName) : (keepsGroups allUsers).Orderly := by
  apply Validator.orderly_ofCheck
  intro world candidate
  exact Check.orderly_require _ rfl

theorem orderly_previousConfig (world : Collaborators) (candidate : Candidate) :
    (previousConfig world candidate).Orderly := by
  unfold previousConfig
  split
  · exact Check.orderly_pure none
  · split
    · exact Check.orderly_pure _
    · have calm : Level.debug ≠ .error := by decide
      exact (Check.orderly_emit calm).bind fun _ => Check.orderly_pure none

theorem orderly_labelsAreValid : labelsAreValid.Orderly := by
  apply Validator.orderly_ofCheck
  intro world candidate
  split
  · exact Check.orderly_pure ()
  · split
    · exact Check.orderly_pure ()
    · exact (orderly_previousConfig world candidate).bind fun _ => Check.orderly_require _ rfl

end CommitAdmission
