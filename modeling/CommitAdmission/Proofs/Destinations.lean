import CommitAdmission.DryRun.Report
import CommitAdmission.Proofs.Permissions

/-! The branch to which a described push leads if the description names none, and what depends on it: the
ref on which permissions are asked, and whether a configuration is looked at. Options after the destination
of a push for review are not split off; they become part of the name of the branch. -/

namespace CommitAdmission

open Text

theorem Text.startsWith_append_of_notMem {start : List Char} {stop : Char} (absent : stop ∉ start)
    (text rest : List Char) :
    startsWith start (text ++ stop :: rest) = startsWith start text := by
  rw [Bool.eq_iff_iff, startsWith_iff, startsWith_iff]
  refine ⟨fun front => ?_, fun front => front.trans (List.prefix_append _ _)⟩
  rcases List.prefix_or_prefix_of_prefix front (List.prefix_append text _) with within | ⟨more, whole⟩
  · exact within
  · -- the start would have to go on over the stop
    rw [← whole, List.prefix_append_right_inj] at front
    cases more with
    | nil => exact ⟨[], by rw [← whole, List.append_nil, List.append_nil]⟩
    | cons c more =>
      obtain ⟨rfl, _⟩ := List.cons_prefix_cons.mp front
      exact absurd (whole ▸ List.mem_append_right text List.mem_cons_self) absent

theorem configIsValid_judge_of_ne {branch : Branch} (elsewhere : branch.ref ≠ RefName.projectConfig)
    (user : User) (allUsers allProjects : ProjectName) (world : Collaborators)
    (candidate : Candidate) :
    (configIsValid branch user allUsers allProjects).judge world candidate = pure Info.plain := by
  have passedOver : (branch.ref != RefName.projectConfig) = true := bne_iff_ne.mpr elsewhere
  simp only [configIsValid, Validator.ofCheck, passedOver, if_true]
  rfl

theorem labelsAreValid_judge_of_ne {candidate : Candidate}
    (elsewhere : candidate.branch.ref ≠ RefName.projectConfig) (world : Collaborators) :
    labelsAreValid.judge world candidate = pure Info.plain := by
  have passedOver : (candidate.branch.ref != RefName.projectConfig) = true := bne_iff_ne.mpr elsewhere
  simp only [labelsAreValid, Validator.ofCheck, passedOver, if_true]
  rfl

namespace DryRun

def factory (settings : Settings) : Factory := ⟨settings, [], [logListener]⟩

namespace Push

theorem destination_review (target : String) :
    destination (RefName.reviewSpace ++ target) =
      if startsWith "refs/".toList target.toList then target else RefName.headsSpace ++ target := by
  have found : after? RefName.reviewSpace.toList (RefName.reviewSpace ++ target).toList =
      some target.toList := by
    rw [after?_eq_some_iff, String.toList_append]
  rw [destination, found]
  simp only [String.ofList_toList]

theorem destination_options (target options : String) :
    destination (RefName.reviewSpace ++ target ++ "%" ++ options) =
      destination (RefName.reviewSpace ++ target) ++ "%" ++ options := by
  have front : startsWith "refs/".toList (target ++ "%" ++ options).toList =
      startsWith "refs/".toList target.toList := by
    have spelled : (target ++ "%" ++ options).toList = target.toList ++ '%' :: options.toList := by
      simp
    rw [spelled, startsWith_append_of_notMem (by decide)]
  have whole : RefName.reviewSpace ++ target ++ "%" ++ options =
      RefName.reviewSpace ++ (target ++ "%" ++ options) := by
    simp only [String.append_assoc]
  rw [whole, destination_review, destination_review, front]
  split
  · rfl
  · simp only [String.append_assoc]

theorem destination_eq_projectConfig_iff (ref : String) :
    destination ref = RefName.projectConfig ↔
      ref = RefName.projectConfig ∨ ref = RefName.reviewSpace ++ RefName.projectConfig := by
  constructor
  · intro leads
    unfold destination at leads
    split at leads
    · exact .inl leads
    · rename_i rest found
      have spelled : ref.toList = RefName.reviewSpace.toList ++ rest := after?_eq_some_iff.mp found
      split at leads
      · refine .inr (String.toList_inj.mp ?_)
        rw [spelled, String.toList_append, ← leads, String.toList_ofList]
      · -- a branch in the space of branches is another one
        have starts := congrArg String.toList leads
        rw [String.toList_append] at starts
        have front : RefName.headsSpace.toList <+: RefName.projectConfig.toList := ⟨_, starts⟩
        exact absurd front (by decide)
  · rintro (rfl | rfl) <;> decide

theorem ref_of_asked (push : Push) (settings : Settings) (world : Collaborators)
    (project : ProjectState) (scenario : Scenario) {asked : String × Permission}
    (member : asked ∈ (((factory settings).chain push.request project scenario).validate world
      push.received.dossier ⟨push.patchSet, true⟩).effects.filterMap Effect.askedPermission?) :
    asked.1 = push.branchOf.ref := by
  rw [Factory.asked_in_scenario] at member
  exact Question.ref_of_mem member

end Push

/-- Options after the destination of a push for review become part of its branch, unless the description
names the branch. So permissions are asked on a ref that ends in the options, and neither the configuration
nor its labels are looked at, whatever the destination: that is done for two refs only. -/
theorem options_end_up_in_branch (push : Push) (target options : String) :
    let plain : Push := { push with ref := RefName.reviewSpace ++ target }
    let optioned : Push := { push with ref := RefName.reviewSpace ++ target ++ "%" ++ options }
    (∀ branch, push.branch = some branch → optioned.branchOf = plain.branchOf) ∧
    (push.branch = none →
      optioned.branchOf = ⟨plain.branchOf.project, plain.branchOf.ref ++ "%" ++ options⟩ ∧
      (∀ ref, ({ push with ref } : Push).branchOf.ref = RefName.projectConfig ↔
        ref = RefName.projectConfig ∨ ref = RefName.reviewSpace ++ RefName.projectConfig) ∧
      ∀ settings world,
        (∀ project scenario, ∀ asked ∈
          (((factory settings).chain optioned.request project scenario).validate world
            optioned.received.dossier ⟨push.patchSet, true⟩).effects.filterMap
              Effect.askedPermission?,
          asked.1 = plain.branchOf.ref ++ "%" ++ options) ∧
        ((factory settings).config optioned.request).judge world
          (optioned.received.dossier.candidate world) = pure Info.plain ∧
        labelsAreValid.judge world (optioned.received.dossier.candidate world) =
          pure Info.plain) := by
  intro plain optioned
  constructor
  · intro branch named
    have same : optioned.branchOf = plain.branchOf := by
      simp only [Push.branchOf, optioned, plain, named, Option.getD_some]
    exact same
  · intro unnamed
    have leads : optioned.branchOf =
        ⟨plain.branchOf.project, plain.branchOf.ref ++ "%" ++ options⟩ := by
      simp only [Push.branchOf, optioned, plain, unnamed, Option.getD_none, Push.destination_options]
    have elsewhere : optioned.branchOf.ref ≠ RefName.projectConfig := by
      intro here
      have ended : '%' ∈ RefName.projectConfig.toList := by
        rw [← here, leads]
        simp
      exact absurd ended (by decide)
    refine ⟨leads, fun ref => ?_, fun settings world => ⟨?_, ?_, ?_⟩⟩
    · rw [← Push.destination_eq_projectConfig_iff, Push.branchOf, unnamed, Option.getD_none]
    · intro project scenario asked member
      have ref : asked.1 = optioned.branchOf.ref :=
        optioned.ref_of_asked settings world project scenario member
      rw [ref, leads]
    · exact configIsValid_judge_of_ne elsewhere _ _ _ world _
    · exact labelsAreValid_judge_of_ne elsewhere world

/-- A push for review without options, and with them. -/
theorem options_reach_another_branch :
    let commit : Commit :=
      ⟨⟨"5e2d3c1b5e2d3c1b5e2d3c1b5e2d3c1b5e2d3c1b", by decide +kernel⟩, [], ⟨"U", "u@x"⟩,
        ⟨"U", "u@x"⟩, "Tighten access"⟩
    let push : Push :=
      ⟨"refs/for/main", none, none, .activeProject ⟨"p"⟩, commit, .ofAccount 1, [], [], none, none, none,
        .none, false, .empty⟩
    push.branch = none ∧
    ({ push with ref := "refs/for/main%topic=x" } : Push).branchOf =
      ⟨⟨"p"⟩, "refs/heads/main%topic=x"⟩ := by
  intro commit push
  have unnamed : push.branch = none := rfl
  have leads := ((options_end_up_in_branch push "main" "topic=x").2 unnamed).1
  exact ⟨unnamed, leads.trans (by decide)⟩

/-- With options a push for review is accepted by the check that rejects its configuration without them. -/
theorem options_hide_invalid_config :
    let id : ObjectId := ⟨"5e2d3c1b5e2d3c1b5e2d3c1b5e2d3c1b5e2d3c1b", by decide +kernel⟩
    let person : Person := ⟨"U", "u@x"⟩
    let config : ProjectConfig := ⟨⟨"p"⟩, none, ["line 4: unknown key"], []⟩
    let world := ((Memory.empty "localhost").addConfig id config).collaborators
    let push (ref : String) : Push :=
      ⟨ref, none, none, .activeProject ⟨"p"⟩, ⟨id, [], person, person, "Tighten access"⟩, .ofAccount 1,
        [], [], none, none, none, .none, false, .empty⟩
    let outcome (ref : String) := ((factory .standard).config (push ref).request).outcome world
      ((push ref).received.dossier.candidate world)
    outcome "refs/for/refs/meta/config" = .error (invalidConfigWith ["line 4: unknown key"]) ∧
    outcome "refs/for/refs/meta/config%topic=x" = .ok .plain := by
  exact ⟨rfl, rfl⟩

end DryRun

end CommitAdmission
