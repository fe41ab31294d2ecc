import CommitAdmission.Proofs.LabelReports

/-! Flags that a pushed configuration keeps. A deprecated flag may stay where the first label of its
name had it. So a configuration whose labels have not changed is told of no flag if their names are
distinct; but of a later label of a name a flag is reported although it was there before. -/

namespace CommitAdmission

open Text

variable {world : Collaborators} {candidate : Candidate} {config : ProjectConfig} {label : Label}
  {flag : String}

namespace IsFirstNamed

theorem unique {labels : List Label} {name : String} {first other : Label}
    (isFirst : IsFirstNamed labels name first) (otherFirst : IsFirstNamed labels name other) :
    first = other := by
  let config : ProjectConfig := { ProjectConfig.plain ⟨""⟩ with labels }
  have found : config.label? name = some first := ProjectConfig.label?_eq_some_iff.mpr isFirst
  exact Option.some.inj (found.symm.trans (ProjectConfig.label?_eq_some_iff.mpr otherFirst))

theorem of_distinct {labels : List Label} (distinct : (labels.map Label.name).Nodup)
    (listed : label ∈ labels) : IsFirstNamed labels label.name label := by
  obtain ⟨earlier, later, rfl⟩ := List.append_of_mem listed
  refine ⟨rfl, earlier, later, rfl, fun other member same => ?_⟩
  rw [List.map_append, List.nodup_append] at distinct
  exact distinct.2.2 _ (List.mem_map_of_mem member) _ List.mem_cons_self same

end IsFirstNamed

/-- A deprecated flag of a label that the first label of its name does not have. -/
structure Shadowed (labels : List Label) (label : Label) (flag : String) : Prop where
  member : flag ∈ label.copyFlags.members
  deprecated : flag ∈ deprecatedFlags
  unset : ∃ first, IsFirstNamed labels label.name first ∧ flag ∉ first.copyFlags.members

theorem not_shadowed_of_distinct {labels : List Label} (distinct : (labels.map Label.name).Nodup)
    (listed : label ∈ labels) : ¬ Shadowed labels label flag := by
  intro shadowed
  obtain ⟨first, isFirst, unset⟩ := shadowed.unset
  rw [isFirst.unique (.of_distinct distinct listed)] at unset
  exact unset shadowed.member

theorem not_wasSet_iff (listed : label ∈ config.labels) :
    ¬ WasSet (some config) label.name flag ↔
      ∃ first, IsFirstNamed config.labels label.name first ∧ flag ∉ first.copyFlags.members := by
  have found : (config.label? label.name).isSome :=
    List.find?_isSome.mpr ⟨label, listed, beq_self_eq_true _⟩
  obtain ⟨first, isFirst⟩ := Option.isSome_iff_exists.mp found
  rw [ProjectConfig.label?_eq_some_iff] at isFirst
  constructor
  · exact fun unset => ⟨first, isFirst, fun member => unset ⟨config, first, rfl, isFirst, member⟩⟩
  · rintro ⟨own, ownFirst, unset⟩ ⟨other, before, same, beforeFirst, member⟩
    cases same
    rw [beforeFirst.unique ownFirst] at member
    exact unset member

theorem mem_flagProblems_iff {old : Option ProjectConfig} {text : String} :
    text ∈ flagProblems old label ↔
      ∃ flag, (flag ∈ label.copyFlags.members ∧ flag ∈ deprecatedFlags ∧
        ¬ WasSet old label.name flag) ∧ deprecatedProblem label flag = text := by
  obtain ⟨flags, flagsNew, problems⟩ := exists_newFlags old label
  rw [problems, List.mem_map]
  exact exists_congr fun flag => and_congr_left fun _ => flagsNew.mem_iff flag

theorem head?_toList_append {start : String} {c : Char} (starts : start.toList.head? = some c)
    (rest : String) : (start ++ rest).toList.head? = some c := by
  rw [String.toList_append, List.head?_append, starts, Option.some_or]

theorem head?_deprecatedProblem (label : Label) (flag : String) :
    (deprecatedProblem label flag).toList.head? = some 'P' := by
  unfold deprecatedProblem
  iterate 6 apply head?_toList_append
  rfl

theorem head?_of_mem_conditionProblems {text : String}
    (member : text ∈ conditionProblems world label) : text.toList.head? = some 'C' := by
  unfold conditionProblems at member
  split at member
  · cases member
  · split at member
    · cases member
    · rw [List.mem_singleton.mp member]
      iterate 5 apply head?_toList_append
      rfl

theorem deprecatedProblem_notMem_conditionProblems (world : Collaborators) (label other : Label)
    (flag : String) : deprecatedProblem other flag ∉ conditionProblems world label := by
  intro member
  have same := head?_of_mem_conditionProblems member
  rw [head?_deprecatedProblem] at same
  exact absurd (Option.some.inj same) (by decide)

def ReportsFlag (outcome : Except Rejection Info) (label : Label) (flag : String) : Prop :=
  ∃ rejection, outcome = .error rejection ∧
    ⟨deprecatedProblem label flag, .error⟩ ∈ rejection.messages

theorem reportsFlag_iff {new : ProjectConfig} {old : Option ProjectConfig}
    (here : candidate.branch.ref = "refs/meta/config")
    (loaded : world.loadConfig candidate.project candidate.update.newId = .ok new)
    (previous : (previousConfig world candidate).outcome = .ok old) :
    ReportsFlag (labelsAreValid.outcome world candidate) label flag ↔
      deprecatedProblem label flag ∈ labelProblems world new old := by
  rw [ReportsFlag, outcome_labelsAreValid here loaded previous]
  constructor
  · rintro ⟨rejection, rejected, reported⟩
    split at rejected
    · cases rejected
    · cases rejected
      obtain ⟨text, listed, same⟩ := List.mem_map.mp reported
      rwa [← (Message.mk.inj same).1]
  · intro listed
    rw [if_neg (List.ne_nil_of_mem listed)]
    exact ⟨_, rfl, List.mem_map_of_mem listed⟩

theorem mem_labelProblems_kept_iff {new : ProjectConfig} (same : new.labels = config.labels) :
    deprecatedProblem label flag ∈ labelProblems world new (some config) ↔
      ∃ own ∈ new.labels, ∃ kept, Shadowed new.labels own kept ∧
        deprecatedProblem own kept = deprecatedProblem label flag := by
  rw [labelProblems, List.mem_flatMap]
  refine exists_congr fun own => and_congr_right fun listed => ?_
  have unread := deprecatedProblem_notMem_conditionProblems world own label flag
  rw [List.mem_append, or_iff_right unread, mem_flagProblems_iff]
  refine exists_congr fun kept => and_congr_left fun _ => ?_
  rw [same] at listed ⊢
  rw [not_wasSet_iff listed]
  constructor
  · rintro ⟨member, deprecated, unset⟩
    exact ⟨member, deprecated, unset⟩
  · intro shadowed
    exact ⟨shadowed.member, shadowed.deprecated, shadowed.unset⟩

/-- Of a configuration whose labels are those before the push, exactly the deprecated flags are reported
that the first label of the same name does not have. So none is where names are distinct. -/
theorem kept_flags_reported_behind_first_label (world : Collaborators) (candidate : Candidate)
    (here : candidate.branch.ref = "refs/meta/config") {new old : ProjectConfig}
    (loaded : world.loadConfig candidate.project candidate.update.newId = .ok new)
    (standing : candidate.update.oldId ≠ ObjectId.zero)
    (loadedBefore : world.loadConfig candidate.project candidate.update.oldId = .ok old)
    (same : new.labels = old.labels) :
    let outcome := labelsAreValid.outcome world candidate
    ((∃ label flag, ReportsFlag outcome label flag) ↔
      ∃ label ∈ new.labels, ∃ flag, Shadowed new.labels label flag) ∧
    (∀ label ∈ new.labels, ∀ flag, Shadowed new.labels label flag →
      ReportsFlag outcome label flag) ∧
    ((new.labels.map Label.name).Nodup → ∀ label flag, ¬ ReportsFlag outcome label flag) := by
  intro outcome
  have previous : (previousConfig world candidate).outcome = .ok (some old) :=
    (previous_iff world).mp (.loaded standing loadedBefore)
  have reports (label : Label) (flag : String) : ReportsFlag outcome label flag ↔ _ :=
    (reportsFlag_iff here loaded previous).trans (mem_labelProblems_kept_iff same)
  have reported (label : Label) (listed : label ∈ new.labels) (flag : String)
      (shadowed : Shadowed new.labels label flag) : ReportsFlag outcome label flag :=
    (reports label flag).mpr ⟨label, listed, flag, shadowed, rfl⟩
  refine ⟨⟨?_, ?_⟩, reported, ?_⟩
  · rintro ⟨label, flag, told⟩
    obtain ⟨own, listed, kept, shadowed, _⟩ := (reports label flag).mp told
    exact ⟨own, listed, kept, shadowed⟩
  · rintro ⟨label, listed, flag, shadowed⟩
    exact ⟨label, flag, reported label listed flag shadowed⟩
  · intro distinct label flag told
    obtain ⟨own, listed, kept, shadowed, _⟩ := (reports label flag).mp told
    exact not_shadowed_of_distinct distinct listed shadowed

/-- The first label of a name keeps its flag, and of the second one the flag is reported that only it
had. -/
theorem first_label_keeps_its_flag :
    let before : ObjectId := ⟨"5d3c2b1a5d3c2b1a5d3c2b1a5d3c2b1a5d3c2b1a", by decide +kernel⟩
    let after : ObjectId := ⟨"6d3c2b1a6d3c2b1a6d3c2b1a6d3c2b1a6d3c2b1a", by decide +kernel⟩
    let first : Label := ⟨"Verified", some "is:MIN", TextSet.ofList ["copyMinScore"]⟩
    let second : Label := ⟨"Verified", none, TextSet.ofList ["copyMaxScore", "copyMinScore"]⟩
    let old : ProjectConfig := ⟨⟨"p"⟩, none, [], [first, second]⟩
    let new : ProjectConfig := ⟨⟨"p"⟩, some ⟨"q"⟩, [], [first, second]⟩
    let world := (((Memory.empty "localhost").addConfig before old).addConfig after new).collaborators
    let person : Person := ⟨"U", "u@x"⟩
    let candidate : Candidate :=
      (ReceivedCommit.dossier ⟨⟨"refs/meta/config", before, after⟩, ⟨⟨"p"⟩, "refs/meta/config"⟩,
        ⟨after, [], person, person, ""⟩, User.ofAccount 1⟩).candidate world
    world.loadConfig ⟨"p"⟩ after = .ok new ∧ before ≠ ObjectId.zero ∧
    world.loadConfig ⟨"p"⟩ before = .ok old ∧ new.labels = old.labels ∧
    Shadowed new.labels second "copyMaxScore" ∧
    ReportsFlag (labelsAreValid.outcome world candidate) second "copyMaxScore" := by
  intro before after first second old new world person candidate
  have loaded : world.loadConfig ⟨"p"⟩ after = .ok new := by decide
  have standing : before ≠ ObjectId.zero := by decide
  have loadedBefore : world.loadConfig ⟨"p"⟩ before = .ok old := by decide
  have isFirst : IsFirstNamed new.labels "Verified" first := ⟨rfl, [], [second], rfl, by simp⟩
  have shadowed : Shadowed new.labels second "copyMaxScore" :=
    ⟨by decide, by decide, first, isFirst, by decide⟩
  have reported := (kept_flags_reported_behind_first_label world candidate rfl loaded standing
    loadedBefore rfl).2.1 second (by decide) "copyMaxScore" shadowed
  exact ⟨loaded, standing, loadedBefore, rfl, shadowed, reported⟩

/-- A configuration is rejected although its labels are those before the push: the second label of a
name has a flag that the first one lacks. -/
theorem unchanged_labels_are_rejected :
    let before : ObjectId := ⟨"5d3c2b1a5d3c2b1a5d3c2b1a5d3c2b1a5d3c2b1a", by decide +kernel⟩
    let after : ObjectId := ⟨"6d3c2b1a6d3c2b1a6d3c2b1a6d3c2b1a6d3c2b1a", by decide +kernel⟩
    let verified (flags : List String) : Label := ⟨"Verified", none, TextSet.ofList flags⟩
    let config : ProjectConfig := ⟨⟨"p"⟩, none, [], [verified [], verified ["copyMinScore"]]⟩
    let world :=
      (((Memory.empty "localhost").addConfig before config).addConfig after config).collaborators
    let person : Person := ⟨"U", "u@x"⟩
    let candidate : Candidate :=
      (ReceivedCommit.dossier ⟨⟨"refs/meta/config", before, after⟩, ⟨⟨"p"⟩, "refs/meta/config"⟩,
        ⟨after, [], person, person, "Update config"⟩, User.ofAccount 1⟩).candidate world
    world.loadConfig ⟨"p"⟩ after = .ok config ∧ world.loadConfig ⟨"p"⟩ before = .ok config ∧
    before ≠ ObjectId.zero ∧
    labelsAreValid.outcome world candidate =
      .error ⟨"invalid project configuration",
        [⟨deprecatedProblem (verified ["copyMinScore"]) "copyMinScore", .error⟩], .policy⟩ := by
  refine ⟨?_, ?_, ?_, ?_⟩
  · rfl
  · rfl
  · decide
  · rfl

end CommitAdmission
