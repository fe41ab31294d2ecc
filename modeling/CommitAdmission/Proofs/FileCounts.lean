import CommitAdmission.Proofs.Conduct
import CommitAdmission.Proofs.Reach
import CommitAdmission.Proofs.Requests

/-! The number of files that a change touches: which validator looks at it, when a run gets there, and
what comes of it. A change with many files that is within the limit is measured once. -/

namespace CommitAdmission

open Text

/-- What a look at the number of files finds: what was learned of the commit, or what its diff has. -/
inductive Dossier.Finds (world : Collaborators) (dossier : Dossier) : Except DiffFailure Nat → Prop
  | known {count : Except DiffFailure Nat} : dossier.fileCount? = some count → Finds world dossier count
  | counted {files : List ChangedFile} : dossier.fileCount? = none →
      world.changedFiles dossier.project dossier.commit.id = .ok files →
      Finds world dossier (.ok (treeFiles files))
  | unavailable {failure : DiffFailure} : dossier.fileCount? = none →
      world.changedFiles dossier.project dossier.commit.id = .error failure →
      Finds world dossier (.error failure)

theorem Dossier.finds_iff {world : Collaborators} {dossier : Dossier} {count : Except DiffFailure Nat} :
    dossier.Finds world count ↔ (dossier.candidate world).fileCount = count := by
  have sees : (dossier.candidate world).fileCount = dossier.fileCount?.getD
      ((world.changedFiles dossier.project dossier.commit.id).map treeFiles) := by
    rw [← funext countFiles_eq]
    rfl
  rw [sees]
  constructor
  · intro finds
    cases finds with
    | known given => rw [given, Option.getD_some]
    | counted unknown diff => rw [unknown, diff, Option.getD_none, Except.map]
    | unavailable unknown diff => rw [unknown, diff, Option.getD_none, Except.map]
  · rintro rfl
    cases given : dossier.fileCount? with
    | some count => exact .known given
    | none =>
      cases diff : world.changedFiles dossier.project dossier.commit.id with
      | ok files => exact .counted given diff
      | error failure => exact .unavailable given diff

theorem serverHost_fst (system : String) (address : Option String) :
    (serverHost system address).1 =
      match address.map Url.readHost with
      | some (.host host) => String.ofList host.write
      | _ => system := by
  cases address with
  | none => rfl
  | some url =>
    rw [serverHost, Option.map_some]
    cases Url.readHost url <;> rfl

def largeChange (host : String) (project : ProjectName) (files : Nat) : Measurement :=
  ⟨"validation/file_count",
    [("file_count", decimalText files), ("host_repo", host ++ "/" ++ project.name)]⟩

/-- A change whose number of files is limited, and that has many files within the limit. -/
structure Candidate.IsLarge (maxFiles : UInt64) (candidate : Candidate) (files : Nat) : Prop where
  limited : limitsFiles candidate.ref = true
  count : candidate.fileCount = .ok files
  many : 10000 < files
  within : files ≤ maxFiles.toNat

/-- All that the limit on the number of files can do with a commit. -/
inductive FileCounting (maxFiles : UInt64) (host : String) (candidate : Candidate)
    (check : Check Info) : Prop
  | unlimited : limitsFiles candidate.ref = false → check = ⟨.ok .plain, []⟩ →
      FileCounting maxFiles host candidate check
  | unavailable {failure : DiffFailure} {warnings : List TraceEvent} :
      limitsFiles candidate.ref = true → candidate.fileCount = .error failure →
      check = ⟨.ok .plain, .countedFiles :: warnings.map .emitted⟩ →
      (∀ event ∈ warnings, event.level = .warn) → FileCounting maxFiles host candidate check
  | exceeding {files : Nat} {rejection : Rejection} :
      limitsFiles candidate.ref = true → candidate.fileCount = .ok files → maxFiles.toNat < files →
      check = ⟨.error rejection, [.countedFiles]⟩ → rejection.kind = .policy →
      FileCounting maxFiles host candidate check
  | ordinary {files : Nat} :
      limitsFiles candidate.ref = true → candidate.fileCount = .ok files → files ≤ maxFiles.toNat →
      files ≤ 10000 → check = ⟨.ok .plain, [.countedFiles]⟩ →
      FileCounting maxFiles host candidate check
  | large {files : Nat} {warnings : List TraceEvent} :
      limitsFiles candidate.ref = true → candidate.fileCount = .ok files → files ≤ maxFiles.toNat →
      10000 < files →
      check = ⟨.ok .plain, .countedFiles ::
        (warnings.map .emitted ++ [.measured (largeChange host candidate.project files)])⟩ →
      (∀ event ∈ warnings, event.level = .warn) → FileCounting maxFiles host candidate check

theorem Candidate.countChanged_bind {α : Type} (candidate : Candidate)
    (next : Except DiffFailure Nat → Check α) :
    (candidate.countChanged >>= next) =
      ⟨(next candidate.fileCount).outcome, .countedFiles :: (next candidate.fileCount).acts⟩ := rfl

theorem fileCounting (maxFiles : UInt64) (baseUrl : Option String) (world : Collaborators)
    (candidate : Candidate) :
    FileCounting maxFiles (serverHost world.systemHost baseUrl).1 candidate
      ((fileCountWithin maxFiles baseUrl).judge world candidate) := by
  simp only [fileCountWithin, Validator.ofCheck, Candidate.countChanged_bind]
  cases limited : limitsFiles candidate.ref with
  | false => exact .unlimited limited rfl
  | true =>
    cases count : candidate.fileCount with
    | error failure =>
      cases hidden : RefName.isUnder RefName.changesSpace candidate.ref with
      | false =>
        have warned : ∀ event ∈ [TraceEvent.ofMessage .warn
            [("commit", candidate.commit.id.name), ("error", failure.message)]
            "failed to validate file count for commit"], event.level = .warn :=
          List.forall_mem_singleton.mpr rfl
        exact .unavailable limited count rfl warned
      | true => exact .unavailable limited count rfl (List.forall_mem_nil _)
    | ok files =>
      by_cases within : files ≤ maxFiles.toNat
      · by_cases many : manyFiles < files
        · simp only [decide_eq_true within, if_pos many]
          have warned : ∀ event ∈ (serverHost world.systemHost baseUrl).2 ++
              [⟨.warn, [], [("files", .count files),
                ("host", .text (serverHost world.systemHost baseUrl).1),
                ("project", .text candidate.project.name), ("ref_name", .text candidate.ref),
                ("message", .text "change with many files")]⟩], event.level = .warn :=
            List.forall_mem_append.mpr ⟨serverHost_warns _ _, List.forall_mem_singleton.mpr rfl⟩
          refine .large limited count within many ?_ warned
          refine congrArg (Check.mk (.ok Info.plain)) (congrArg (List.cons Act.countedFiles) ?_)
          rw [List.map_append, List.append_assoc]
          exact List.append_nil _
        · simp only [decide_eq_true within, if_neg many]
          exact .ordinary limited count within (Nat.le_of_not_lt many) rfl
      · simp only [decide_eq_false within]
        exact .exceeding limited count (Nat.lt_of_not_le within) rfl rfl

namespace FileCounting

variable {maxFiles : UInt64} {host : String} {candidate : Candidate} {check : Check Info}

theorem rejects_iff (counting : FileCounting maxFiles host candidate check) :
    (∃ rejection, check.outcome = .error rejection) ↔
      limitsFiles candidate.ref = true ∧
        ∃ files, candidate.fileCount = .ok files ∧ maxFiles.toNat < files := by
  constructor
  · rintro ⟨rejection, rejects⟩
    cases counting with
    | unlimited _ same => cases same ▸ rejects
    | unavailable _ _ same => cases same ▸ rejects
    | exceeding limited count many => exact ⟨limited, _, count, many⟩
    | ordinary _ _ _ _ same => cases same ▸ rejects
    | large _ _ _ _ same => cases same ▸ rejects
  · rintro ⟨limited, files, count, many⟩
    cases counting with
    | unlimited free => cases free.symm.trans limited
    | unavailable _ missing => cases missing.symm.trans count
    | @exceeding _ rejection _ _ _ same => exact ⟨rejection, congrArg Check.outcome same⟩
    | ordinary _ own within =>
      cases own.symm.trans count
      exact absurd within (Nat.not_le.mpr many)
    | large _ own within =>
      cases own.symm.trans count
      exact absurd within (Nat.not_le.mpr many)

theorem filterMap_measured?_emitted (events : List TraceEvent) :
    (events.map Act.emitted).filterMap Act.measured? = [] := by
  rw [List.filterMap_map, List.filterMap_eq_nil_iff]
  exact fun _ _ => rfl

theorem measured_of_large (counting : FileCounting maxFiles host candidate check) {files : Nat}
    (isLarge : candidate.IsLarge maxFiles files) :
    check.acts.filterMap Act.measured? = [largeChange host candidate.project files] := by
  cases counting with
  | unlimited free => cases free.symm.trans isLarge.limited
  | unavailable _ missing => cases missing.symm.trans isLarge.count
  | exceeding _ own exceeds =>
    cases own.symm.trans isLarge.count
    exact absurd isLarge.within (Nat.not_le.mpr exceeds)
  | ordinary _ own _ few =>
    cases own.symm.trans isLarge.count
    exact absurd isLarge.many (Nat.not_lt.mpr few)
  | large _ own _ _ same =>
    cases own.symm.trans isLarge.count
    rw [same, List.filterMap_cons, List.filterMap_append, filterMap_measured?_emitted]
    rfl

theorem measured_of_not_large (counting : FileCounting maxFiles host candidate check)
    (other : ¬∃ files, candidate.IsLarge maxFiles files) :
    check.acts.filterMap Act.measured? = [] := by
  cases counting with
  | unlimited _ same =>
    rw [same]
    rfl
  | unavailable _ _ same =>
    rw [same, List.filterMap_cons, filterMap_measured?_emitted]
    rfl
  | exceeding _ _ _ same =>
    rw [same]
    rfl
  | ordinary _ _ _ _ same =>
    rw [same]
    rfl
  | large limited count within many => exact absurd ⟨_, limited, count, many, within⟩ other

end FileCounting

def Act.IsUnmetered (act : Act) : Prop := act.measured? = none

def Validator.Unmetered (validator : Validator) : Prop :=
  ∀ world candidate, (validator.judge world candidate).ActsWithin Act.IsUnmetered

theorem Validator.Unmetered.skippable {validator : Validator} (unmetered : validator.Unmetered)
    (skip : Bool) : (validator.skippable skip).Unmetered := by
  intro world candidate
  simp only [Validator.skippable]
  split
  · have unmeasured (event : TraceEvent) : Act.IsUnmetered (.emitted event) := rfl
    exact (Check.actsWithin_performOne (unmeasured _)).bind fun _ => Check.actsWithin_pure _
  · exact unmetered world candidate

theorem Plugin.unmetered_validator (plugin : Plugin) : plugin.validator.Unmetered := by
  intro world candidate
  have unsaid (event : TraceEvent) : Act.measured? (.emitted event) = none := rfl
  exact List.filterMap_eq_nil_iff.mp (plugin.filterMap_acts_validator rfl unsaid world candidate)

def Validator.Frugal (validator : Validator) : Prop :=
  ∀ world candidate, (validator.judge world candidate).ActsWithin Act.IsFrugal

theorem Validator.Orderly.frugal {validator : Validator} (orderly : validator.Orderly) :
    validator.Frugal :=
  fun world candidate => (orderly world candidate).frugal

theorem Validator.Frugal.unmetered {validator : Validator} (frugal : validator.Frugal) :
    validator.Unmetered := by
  intro world candidate act member
  have allowed := frugal world candidate act member
  cases act with
  | measured measurement => exact absurd allowed id
  | _ => rfl

theorem Validator.frugal_ofCheck (name : String) {check : Collaborators → Candidate → Check Unit}
    (frugal : ∀ world candidate, (check world candidate).ActsWithin Act.IsFrugal) :
    (ofCheck name check).Frugal :=
  fun world candidate => (frugal world candidate).bind fun _ => Check.actsWithin_pure _

theorem frugal_configIsValid (branch : Branch) (user : User) (allUsers allProjects : ProjectName) :
    (configIsValid branch user allUsers allProjects).Frugal := by
  apply Validator.frugal_ofCheck
  intro world candidate
  split
  · exact Check.actsWithin_pure _
  · split
    · exact (Check.actsWithin_performOne trivial).bind fun _ => Check.actsWithin_reject _
    · exact (Check.actsWithin_require _ _).bind fun _ => Check.actsWithin_require _ _

def Request.wrap (request : Request) : Scenario → Plugin → Validator
  | .receive, plugin => plugin.validator.skippable request.skipValidation
  | .server, plugin => plugin.validator
  | .merged, plugin => plugin.validator

theorem Request.unmetered_wrap (request : Request) (scenario : Scenario) (plugin : Plugin) :
    (request.wrap scenario plugin).Unmetered := by
  cases scenario with
  | receive => exact plugin.unmetered_validator.skippable _
  | server => exact plugin.unmetered_validator
  | merged => exact plugin.unmetered_validator

namespace Factory

variable (factory : Factory) (request : Request) (project : ProjectState)

def beforeCounting : List Validator :=
  [uploadMerges request.branch.ref,
   projectIsActive project,
   serverMerges request.branch.ref factory.settings.serverPerson,
   factory.author request]

def beforePlugins : Scenario → List Validator
  | .receive => factory.committer request :: factory.late request project ++ [isNotBanned]
  | .server => factory.late request project
  | .merged => []

def afterCounting (scenario : Scenario) : List Validator :=
  factory.beforePlugins request project scenario ++ factory.plugins.map (request.wrap scenario) ++
    factory.trailing

theorem validators_eq {scenario : Scenario} (unmerged : scenario ≠ .merged) :
    factory.validators request project scenario =
      factory.beforeCounting request project ++
        factory.fileCount :: factory.afterCounting request project scenario := by
  cases scenario with
  | receive => rfl
  | server => rfl
  | merged => exact absurd rfl unmerged

theorem frugal_beforeCounting :
    ∀ validator ∈ factory.beforeCounting request project, validator.Frugal := by
  simp only [beforeCounting, List.forall_mem_cons]
  exact ⟨(orderly_uploadMerges _).frugal, (orderly_projectIsActive _).frugal,
    (orderly_serverMerges _ _).frugal,
    (orderly_authorIsUploader _ _ _).frugal, List.forall_mem_nil _⟩

theorem frugal_late : ∀ validator ∈ factory.late request project, validator.Frugal := by
  simp only [late, List.forall_mem_cons]
  exact ⟨(orderly_signedOff _ _ _).frugal, (orderly_hasChangeId _).frugal,
    frugal_configIsValid _ _ _ _, List.forall_mem_nil _⟩

theorem frugal_trailing : ∀ validator ∈ factory.trailing, validator.Frugal := by
  simp only [trailing, List.forall_mem_cons]
  exact ⟨(orderly_keepsGroups _).frugal, orderly_labelsAreValid.frugal, List.forall_mem_nil _⟩

theorem frugal_beforePlugins (scenario : Scenario) :
    ∀ validator ∈ factory.beforePlugins request project scenario, validator.Frugal := by
  cases scenario with
  | receive =>
    simp only [beforePlugins, List.cons_append, List.forall_mem_cons, List.forall_mem_append]
    exact ⟨(orderly_committerIsUploader _ _ _).frugal, factory.frugal_late request project,
      orderly_isNotBanned.frugal, List.forall_mem_nil _⟩
  | server => exact factory.frugal_late request project
  | merged => exact List.forall_mem_nil _

theorem unmetered_afterCounting (scenario : Scenario) :
    ∀ validator ∈ factory.afterCounting request project scenario, validator.Unmetered := by
  simp only [afterCounting, List.forall_mem_append, List.forall_mem_map]
  refine ⟨⟨?_, fun plugin _ => request.unmetered_wrap scenario plugin⟩, ?_⟩
  · exact fun validator member =>
      (factory.frugal_beforePlugins request project scenario validator member).unmetered
  · exact fun validator member => (factory.frugal_trailing validator member).unmetered

theorem frugal_merged :
    ∀ validator ∈ factory.mergedValidators request project, validator.Frugal := by
  simp only [mergedValidators, List.forall_mem_cons]
  exact ⟨(orderly_uploadMerges _).frugal, (orderly_projectIsActive _).frugal,
    (orderly_authorIsUploader _ _ _).frugal, (orderly_committerIsUploader _ _ _).frugal,
    List.forall_mem_nil _⟩

end Factory

theorem Act.measured?_inside (span : Span) (act : Act) :
    (act.inside span).measured? = act.measured? := by
  cases act <;> rfl

namespace Factory

variable {factory : Factory} {request : Request} {project : ProjectState} {world : Collaborators}
  {dossier : Dossier} (options : RunOptions)

theorem measured_of_merged (factory : Factory) (request : Request) (project : ProjectState)
    (world : Collaborators) (dossier : Dossier) :
    ((factory.chain request project .merged).validate world dossier options).effects.filterMap
      Effect.measured? = [] := by
  refine (Chain.filterMap_view Act.measured? Act.measured?_inside world _ dossier options).trans ?_
  apply Chain.flatMap_view_of_blind
  intro validator member
  have called := List.mem_of_mem_take member
  exact (factory.frugal_merged request project validator called).unmetered _ _

theorem unmetered_around (factory : Factory) (request : Request) (project : ProjectState)
    (scenario : Scenario) (world : Collaborators) (candidate : Candidate) :
    ∀ other ∈ factory.beforeCounting request project ++
      factory.afterCounting request project scenario,
      ∀ act ∈ (other.judge world candidate).acts, act.measured? = none := by
  intro other member
  rcases List.mem_append.mp member with early | late
  · exact (factory.frugal_beforeCounting request project other early).unmetered _ _
  · exact factory.unmetered_afterCounting request project scenario other late _ _

variable {scenario : Scenario} (unmerged : scenario ≠ .merged)

include unmerged

theorem measured_of_reached
    (reached : ∀ validator ∈ factory.beforeCounting request project,
      validator.Passes world (dossier.candidate world)) :
    ((factory.chain request project scenario).validate world dossier options).effects.filterMap
      Effect.measured? =
      (factory.fileCount.judge world (dossier.candidate world)).acts.filterMap Act.measured? :=
  Chain.filterMap_view_of_reached Act.measured? Act.measured?_inside
    (factory.validators_eq request project unmerged)
    (factory.unmetered_around request project scenario _ _) reached options

theorem measured_of_unreached
    (unreached : ¬∀ validator ∈ factory.beforeCounting request project,
      validator.Passes world (dossier.candidate world)) :
    ((factory.chain request project scenario).validate world dossier options).effects.filterMap
      Effect.measured? = [] :=
  Chain.filterMap_view_of_unreached Act.measured? Act.measured?_inside
    (factory.validators_eq request project unmerged)
    (factory.unmetered_around request project scenario _ _) unreached options

end Factory

namespace Factory

variable {factory : Factory} {request : Request} {project : ProjectState} {world : Collaborators}
  {dossier : Dossier}

theorem isLarge_iff (files : Nat) :
    (dossier.candidate world).IsLarge factory.settings.maxFiles files ↔
      ("refs/for/".toList <+: dossier.ref.toList ∨ "refs/changes/".toList <+: dossier.ref.toList) ∧
        dossier.Finds world (.ok files) ∧ 10000 < files ∧ files ≤ factory.settings.maxFiles.toNat := by
  rw [← limitsFiles_iff, Dossier.finds_iff]
  constructor
  · intro large
    exact ⟨large.limited, large.count, large.many, large.within⟩
  · rintro ⟨limited, count, many, within⟩
    exact ⟨limited, count, many, within⟩

section Unmerged

variable {scenario : Scenario} (unmerged : scenario ≠ .merged) (options : RunOptions)

include unmerged

theorem measured_of_large
    (reached : ∀ validator ∈ factory.beforeCounting request project,
      validator.Passes world (dossier.candidate world))
    {files : Nat} (large : (dossier.candidate world).IsLarge factory.settings.maxFiles files) :
    ((factory.chain request project scenario).validate world dossier options).effects.filterMap
      Effect.measured? =
      [largeChange (serverHost world.systemHost factory.settings.baseUrl).1 dossier.project files] := by
  have shown := measured_of_reached options unmerged reached
  exact shown.trans ((fileCounting _ _ world _).measured_of_large large)

theorem measured_of_not_large
    (other : ¬((∀ validator ∈ factory.beforeCounting request project,
      validator.Passes world (dossier.candidate world)) ∧
      ∃ files, (dossier.candidate world).IsLarge factory.settings.maxFiles files)) :
    ((factory.chain request project scenario).validate world dossier options).effects.filterMap
      Effect.measured? = [] := by
  by_cases reached : ∀ validator ∈ factory.beforeCounting request project,
      validator.Passes world (dossier.candidate world)
  · have shown := measured_of_reached options unmerged reached
    exact shown.trans
      ((fileCounting _ _ world _).measured_of_not_large fun large => other ⟨reached, large⟩)
  · exact measured_of_unreached options unmerged reached

theorem rejected_by_fileCount_iff :
    let candidate := dossier.candidate world
    (∃ infos rejection,
      FirstRejection world candidate (factory.beforeCounting request project) infos factory.fileCount
        rejection ∧
      ((factory.chain request project scenario).validate world dossier options).verdict =
        .error ⟨rejection.reason, infos.flatMap Info.messages ++ rejection.messages,
          rejection.kind⟩) ↔
      (∀ validator ∈ factory.beforeCounting request project, validator.Passes world candidate) ∧
        ("refs/for/".toList <+: dossier.ref.toList ∨ "refs/changes/".toList <+: dossier.ref.toList) ∧
        ∃ files, dossier.Finds world (.ok files) ∧ factory.settings.maxFiles.toNat < files := by
  intro candidate
  have counting := fileCounting factory.settings.maxFiles factory.settings.baseUrl world candidate
  simp only [← limitsFiles_iff, Dossier.finds_iff]
  constructor
  · rintro ⟨infos, rejection, first, _⟩
    exact ⟨exists_passed_iff.mp ⟨infos, first.passed⟩,
      counting.rejects_iff.mp ⟨rejection, first.rejected⟩⟩
  · rintro ⟨reached, exceeds⟩
    obtain ⟨infos, passed⟩ := exists_passed_iff.mpr reached
    obtain ⟨rejection, rejects⟩ := counting.rejects_iff.mpr exceeds
    have first : FirstRejection world candidate (factory.beforeCounting request project) infos
        factory.fileCount rejection := ⟨passed, rejects⟩
    refine ⟨infos, rejection, first, ?_⟩
    exact congrArg Run.verdict (Chain.validate_of_rejected
      (factory.validators_eq request project unmerged) first options)

end Unmerged

/-- A change is measured once, with the number of its files and with the host and the project, if its
run gets to count its files, its push is for review or of a patch set, its diff is there, and it has
many files but not more than the limit. All other runs measure nothing: more files get the commit
rejected, a diff that is missing is let pass, and of commits that are merged already the files are not
counted. -/
theorem large_changes_are_measured_once (world : Collaborators) (factory : Factory)
    (request : Request) (project : ProjectState) (scenario : Scenario) (dossier : Dossier)
    (options : RunOptions) :
    let candidate := dossier.candidate world
    let run := (factory.chain request project scenario).validate world dossier options
    let measured := run.effects.filterMap Effect.measured?
    let before := factory.beforeCounting request project
    let reached := ∀ validator ∈ before, validator.Passes world candidate
    let limited :=
      "refs/for/".toList <+: dossier.ref.toList ∨ "refs/changes/".toList <+: dossier.ref.toList
    let maximum := factory.settings.maxFiles.toNat
    let host := match factory.settings.baseUrl.map Url.readHost with
      | some (.host host) => String.ofList host.write
      | _ => world.systemHost
    (scenario = .merged → measured = []) ∧
    (scenario ≠ .merged →
      (∃ after, factory.validators request project scenario = before ++ factory.fileCount :: after) ∧
      measured.length ≤ 1 ∧
      (∀ measurement : Measurement, measured = [measurement] ↔
        reached ∧ limited ∧ ∃ files, dossier.Finds world (.ok files) ∧
          10000 < files ∧ files ≤ maximum ∧
          measurement = ⟨"validation/file_count",
            [("file_count", decimalText files), ("host_repo", host ++ "/" ++ dossier.project.name)]⟩) ∧
      let rejected := ∃ infos rejection,
        FirstRejection world candidate before infos factory.fileCount rejection ∧
        run.verdict = .error
          ⟨rejection.reason, infos.flatMap Info.messages ++ rejection.messages, rejection.kind⟩
      (rejected ↔ reached ∧ limited ∧ ∃ files, dossier.Finds world (.ok files) ∧ maximum < files) ∧
      (rejected → measured = []) ∧
      ∀ failure, dossier.Finds world (.error failure) → factory.fileCount.Passes world candidate) := by
  intro candidate run measured before reached limited maximum host
  have server : (serverHost world.systemHost factory.settings.baseUrl).1 = host := serverHost_fst _ _
  refine ⟨?_, ?_⟩
  · rintro rfl
    exact measured_of_merged options factory request project world dossier
  · intro unmerged
    refine ⟨⟨_, factory.validators_eq request project unmerged⟩, ?_, ?_,
      rejected_by_fileCount_iff unmerged options, ?_, ?_⟩
    · by_cases large : reached ∧ ∃ files, candidate.IsLarge factory.settings.maxFiles files
      · obtain ⟨reached, files, own⟩ := large
        have once : measured = _ := measured_of_large unmerged options reached own
        exact Nat.le_of_eq (congrArg List.length once)
      · have none : measured = [] := measured_of_not_large unmerged options large
        rw [none]
        exact Nat.zero_le 1
    · intro measurement
      constructor
      · intro once
        by_cases large : reached ∧ ∃ files, candidate.IsLarge factory.settings.maxFiles files
        · obtain ⟨reached, files, own⟩ := large
          obtain ⟨limited, found, many, within⟩ := (isLarge_iff files).mp own
          have large := measured_of_large unmerged options reached own
          rw [server] at large
          cases once.symm.trans large
          exact ⟨reached, limited, files, found, many, within, rfl⟩
        · cases once.symm.trans (measured_of_not_large unmerged options large)
      · rintro ⟨reached, limited, files, found, many, within, rfl⟩
        have large := measured_of_large unmerged options reached
          ((isLarge_iff files).mpr ⟨limited, found, many, within⟩)
        rw [server] at large
        exact large
    · intro rejected
      -- The number of files cannot both exceed the limit and be within it.
      obtain ⟨_, _, files, found, exceeds⟩ := (rejected_by_fileCount_iff unmerged options).mp rejected
      apply measured_of_not_large unmerged options
      rintro ⟨_, other, large⟩
      cases (Dossier.finds_iff.mp found).symm.trans large.count
      exact absurd large.within (Nat.not_le.mpr exceeds)
    · intro failure found
      have counting := fileCounting factory.settings.maxFiles factory.settings.baseUrl world candidate
      cases own : factory.fileCount.outcome world candidate with
      | ok info => exact ⟨info, own⟩
      | error rejection =>
        obtain ⟨_, files, count, _⟩ := counting.rejects_iff.mp ⟨rejection, own⟩
        cases (Dossier.finds_iff.mp found).symm.trans count

end Factory

end CommitAdmission
