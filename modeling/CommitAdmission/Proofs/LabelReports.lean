import Mathlib.Data.List.Forall2
import Mathlib.Data.List.Sort
import CommitAdmission.Memory
import CommitAdmission.Proofs.Decisions

namespace CommitAdmission

open Text

variable {world : Collaborators} {candidate : Candidate} {old : Option ProjectConfig} {label : Label}

def IsFirstNamed (labels : List Label) (name : String) (label : Label) : Prop :=
  label.name = name ∧
    ∃ earlier later, labels = earlier ++ label :: later ∧ ∀ other ∈ earlier, other.name ≠ name

theorem ProjectConfig.label?_eq_some_iff {config : ProjectConfig} {name : String} :
    config.label? name = some label ↔ IsFirstNamed config.labels name label := by
  simp only [label?, List.find?_eq_some_iff_append, beq_iff_eq, IsFirstNamed, Bool.not_eq_true',
    beq_eq_false_iff_ne]

/-- Whether the first label of a name had a flag. -/
def WasSet (old : Option ProjectConfig) (name flag : String) : Prop :=
  ∃ config before, old = some config ∧ IsFirstNamed config.labels name before ∧
    flag ∈ before.copyFlags.members

theorem wasSet_iff {name flag : String} :
    WasSet old name flag ↔ (old.bind (·.label? name)).any (·.copyFlags.contains flag) = true := by
  rw [Option.any_eq_true]
  constructor
  · rintro ⟨config, before, rfl, first, member⟩
    exact ⟨before, ProjectConfig.label?_eq_some_iff.mpr first, List.contains_iff_mem.mpr member⟩
  · rintro ⟨before, found, contained⟩
    obtain ⟨config, given, first⟩ := Option.bind_eq_some_iff.mp found
    exact ⟨config, before, given, ProjectConfig.label?_eq_some_iff.mp first,
      List.contains_iff_mem.mp contained⟩

/-- The flags of a label that are deprecated and were not set before, in ascending order. -/
structure NewFlags (old : Option ProjectConfig) (label : Label) (flags : List String) : Prop where
  ascending : flags.Pairwise (· < ·)
  mem_iff : ∀ flag, flag ∈ flags ↔
    flag ∈ label.copyFlags.members ∧ flag ∈ deprecatedFlags ∧ ¬ WasSet old label.name flag

theorem NewFlags.unique {flags others : List String} (flagsNew : NewFlags old label flags)
    (othersNew : NewFlags old label others) : flags = others := by
  apply flagsNew.ascending.eq_of_mem_iff othersNew.ascending
  intro flag
  rw [flagsNew.mem_iff, othersNew.mem_iff]

def flagReport (name flag : String) : String :=
  "Parameter 'label." ++ name ++ "." ++ flag ++ "' is deprecated and cannot be set, use 'label." ++
    name ++ ".copyCondition' instead."

theorem exists_newFlags (old : Option ProjectConfig) (label : Label) :
    ∃ flags, NewFlags old label flags ∧
      flagProblems old label = flags.map (flagReport label.name) := by
  refine ⟨_, ⟨label.copyFlags.ascending.filter _, fun flag => ?_⟩, rfl⟩
  rw [List.mem_filter, Bool.and_eq_true, Bool.not_eq_true', ← Bool.not_eq_true, ← wasSet_iff,
    List.contains_iff_mem]

theorem NewFlags.flagProblems_eq {flags : List String} (flagsNew : NewFlags old label flags) :
    flagProblems old label = flags.map (flagReport label.name) := by
  obtain ⟨others, othersNew, problems⟩ := exists_newFlags old label
  rw [problems, othersNew.unique flagsNew]

/-- What is reported on a label: that its condition cannot be read, and each of its new flags. -/
inductive ReportsOn (world : Collaborators) (old : Option ProjectConfig) (label : Label) :
    List String → Prop
  | readable {flags : List String} :
      (∀ condition, label.copyCondition = some condition →
        world.checkCondition condition = .ok ()) →
      NewFlags old label flags →
      ReportsOn world old label (flags.map (flagReport label.name))
  | unreadable {condition fault : String} {flags : List String} :
      label.copyCondition = some condition → world.checkCondition condition = .error fault →
      NewFlags old label flags →
      ReportsOn world old label
        (("Cannot parse copy condition '" ++ condition ++ "' of label " ++ label.name ++ ": " ++ fault)
          :: flags.map (flagReport label.name))

theorem reportsOn_iff {texts : List String} :
    ReportsOn world old label texts ↔
      conditionProblems world label ++ flagProblems old label = texts := by
  constructor
  · intro reports
    cases reports with
    | readable read flagsNew =>
      rw [(conditionProblems_eq_nil_iff world label).mpr read, List.nil_append,
        flagsNew.flagProblems_eq]
    | unreadable present unread flagsNew =>
      rw [flagsNew.flagProblems_eq]
      simp only [conditionProblems, present, unread, List.singleton_append]
  · rintro rfl
    obtain ⟨flags, flagsNew, problems⟩ := exists_newFlags old label
    rw [problems]
    -- a condition has one problem at most, so that what is found decides the constructor
    by_cases clean : conditionProblems world label = []
    · rw [clean]
      exact .readable ((conditionProblems_eq_nil_iff world label).mp clean) flagsNew
    · unfold conditionProblems at clean ⊢
      split at clean
      · exact absurd rfl clean
      · rename_i condition present
        split at clean
        · exact absurd rfl clean
        · rename_i fault unread
          exact .unreadable present unread flagsNew

def labelReports (world : Collaborators) (new : ProjectConfig) (old : Option ProjectConfig) :
    List (List String) :=
  new.labels.map fun label => conditionProblems world label ++ flagProblems old label

theorem labelProblems_eq_flatten (new : ProjectConfig) :
    labelProblems world new old = (labelReports world new old).flatten := List.flatMap_def

theorem forall₂_reportsOn_iff {new : ProjectConfig} {reports : List (List String)} :
    List.Forall₂ (ReportsOn world old) new.labels reports ↔
      labelReports world new old = reports := by
  have related : ReportsOn world old = fun label texts =>
      conditionProblems world label ++ flagProblems old label = texts := by
    funext label texts
    exact propext reportsOn_iff
  rw [related, ← List.forall₂_map_left_iff, List.forall₂_eq_eq_eq, labelReports]

theorem exists_previous (world : Collaborators) (candidate : Candidate) :
    ∃ old, (previousConfig world candidate).outcome = .ok old ∧
      ∀ other, Previous world candidate other ↔ other = old := by
  obtain ⟨old, outcome⟩ := exists_previousConfig world candidate
  refine ⟨old, outcome, fun other => ?_⟩
  rw [previous_iff world, outcome, Except.ok.injEq, eq_comm]

theorem flagReport_mem_labelProblems (world : Collaborators) {new : ProjectConfig}
    {flag : String} (listed : label ∈ new.labels) (member : flag ∈ label.copyFlags.members)
    (deprecated : flag ∈ deprecatedFlags) :
    flagReport label.name flag ∈ labelProblems world new none := by
  obtain ⟨flags, flagsNew, problems⟩ := exists_newFlags none label
  have unset : ¬ WasSet none label.name flag := by
    rintro ⟨config, before, present, _⟩
    cases present
  have isNew : flag ∈ flags := (flagsNew.mem_iff flag).mpr ⟨member, deprecated, unset⟩
  refine List.mem_flatMap.mpr ⟨label, listed, List.mem_append_right _ ?_⟩
  rw [problems]
  exact List.mem_map_of_mem isNew

theorem outcome_labelsAreValid {new : ProjectConfig}
    (here : candidate.branch.ref = "refs/meta/config")
    (loaded : world.loadConfig candidate.project candidate.update.newId = .ok new)
    (previous : (previousConfig world candidate).outcome = .ok old) :
    labelsAreValid.outcome world candidate =
      if labelProblems world new old = [] then .ok .plain
      else .error ⟨"invalid project configuration",
        (labelProblems world new old).map fun text => ⟨text, .error⟩, .policy⟩ := by
  have same : ¬ (candidate.branch.ref != RefName.projectConfig) = true := by
    rw [here]
    decide
  rw [labelsAreValid, Validator.outcome_ofCheck, if_neg same, loaded]
  simp only
  rw [Check.outcome_bind, previous]
  simp only [Except.bind, Check.outcome_require, List.isEmpty_iff]
  split <;> rfl

/-- The labels of a loadable configuration pass if there is nothing to report on any of them. Otherwise the
push is rejected with the reports on all of them, in order; without a revision before it that can be loaded,
they name each deprecated flag. -/
theorem label_problems_reported_completely (world : Collaborators) (candidate : Candidate)
    (here : candidate.branch.ref = "refs/meta/config") {new : ProjectConfig}
    (loaded : world.loadConfig candidate.project candidate.update.newId = .ok new) :
    (∃ old reports,
      (∀ other, Previous world candidate other ↔ other = old) ∧
      (∀ others, List.Forall₂ (ReportsOn world old) new.labels others ↔ others = reports) ∧
      labelsAreValid.outcome world candidate =
        if reports.flatten = [] then .ok .plain
        else .error ⟨"invalid project configuration",
          reports.flatten.map fun text => ⟨text, .error⟩, .policy⟩) ∧
    ((candidate.update.oldId = ObjectId.zero ∨
        ∃ failure, world.loadConfig candidate.project candidate.update.oldId = .error failure) →
      ∀ label ∈ new.labels, ∀ flag ∈ label.copyFlags.members, flag ∈ deprecatedFlags →
        ∃ rejection, labelsAreValid.outcome world candidate = .error rejection ∧
          ⟨flagReport label.name flag, .error⟩ ∈ rejection.messages) := by
  obtain ⟨old, previous, onlyOld⟩ := exists_previous world candidate
  have outcome := outcome_labelsAreValid here loaded previous
  constructor
  · refine ⟨old, labelReports world new old, onlyOld, fun others => ?_, ?_⟩
    · rw [forall₂_reportsOn_iff, eq_comm]
    · rw [outcome, labelProblems_eq_flatten]
  · intro missing label listed flag member deprecated
    have absent : old = none := by
      symm
      apply (onlyOld none).mp
      by_cases zero : candidate.update.oldId = ObjectId.zero
      · exact .first zero
      · obtain ⟨failure, unloadable⟩ := missing.resolve_left zero
        exact .unloadable zero unloadable
    have problem := flagReport_mem_labelProblems world listed member deprecated
    subst absent
    rw [if_neg (List.ne_nil_of_mem problem)] at outcome
    exact ⟨_, outcome, List.mem_map_of_mem problem⟩

/-- Of two labels of one name before the push only the first one excuses a flag, and after a revision that is
lost none does. -/
theorem repeated_label_and_lost_revision :
    let before : ObjectId := ⟨"1f3c2b1a1f3c2b1a1f3c2b1a1f3c2b1a1f3c2b1a", by decide +kernel⟩
    let after : ObjectId := ⟨"2f3c2b1a2f3c2b1a2f3c2b1a2f3c2b1a2f3c2b1a", by decide +kernel⟩
    let lost : ObjectId := ⟨"3f3c2b1a3f3c2b1a3f3c2b1a3f3c2b1a3f3c2b1a", by decide +kernel⟩
    let verified (condition : Option String) (flags : List String) : Label :=
      ⟨"Verified", condition, TextSet.ofList flags⟩
    let old : ProjectConfig :=
      ⟨⟨"p"⟩, none, [], [verified none ["copyMinScore"], verified none ["copyMaxScore"]]⟩
    let graded := verified (some "is:") ["copyMinScore", "copyMaxScore", "copyWhatever"]
    let new : ProjectConfig :=
      ⟨⟨"p"⟩, none, [], [graded, ⟨"Review", none, TextSet.ofList ["copyValue"]⟩]⟩
    let world := (((Memory.empty "localhost").addConfig before old).addConfig after new).collaborators
    let person : Person := ⟨"U", "u@x"⟩
    let candidate (oldId : ObjectId) : Candidate :=
      (ReceivedCommit.dossier ⟨⟨"refs/meta/config", oldId, after⟩, ⟨⟨"p"⟩, "refs/meta/config"⟩,
        ⟨after, [], person, person, ""⟩, User.ofAccount 1⟩).candidate world
    world.loadConfig ⟨"p"⟩ after = .ok new ∧
    labelsAreValid.outcome world (candidate before) =
      .error ⟨"invalid project configuration",
        ["Cannot parse copy condition 'is:' of label Verified: operator 'is' needs a value",
          "Parameter 'label.Verified.copyMaxScore' is deprecated and cannot be set, " ++
            "use 'label.Verified.copyCondition' instead.",
          "Parameter 'label.Review.copyValue' is deprecated and cannot be set, " ++
            "use 'label.Review.copyCondition' instead."].map fun text => ⟨text, .error⟩, .policy⟩ ∧
    (∃ failure, world.loadConfig ⟨"p"⟩ lost = .error failure) ∧
    ∃ rejection, labelsAreValid.outcome world (candidate lost) = .error rejection ∧
      ⟨flagReport "Verified" "copyMinScore", .error⟩ ∈ rejection.messages := by
  intro before after lost verified old graded new world person candidate
  have loaded : world.loadConfig ⟨"p"⟩ after = .ok new := by decide
  have unloadable : ∃ failure, world.loadConfig ⟨"p"⟩ lost = .error failure := ⟨_, rfl⟩
  have standing : Previous world (candidate before) (some old) :=
    .loaded (by decide) (by decide : world.loadConfig ⟨"p"⟩ before = .ok old)
  obtain ⟨previous, reports, onlyOld, onlyReports, outcome⟩ :=
    (label_problems_reported_completely world (candidate before) rfl loaded).1
  cases (onlyOld _).mp standing
  rw [← (onlyReports _).mp (forall₂_reportsOn_iff.mpr rfl)] at outcome
  have rejected := (label_problems_reported_completely world (candidate lost) rfl loaded).2
    (.inr unloadable) graded (by decide) "copyMinScore" (by decide) (by decide)
  refine ⟨loaded, outcome.trans ?_, unloadable, rejected⟩
  decide

end CommitAdmission
