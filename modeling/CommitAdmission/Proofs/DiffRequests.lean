import CommitAdmission.Proofs.FileCounts
import CommitAdmission.Proofs.History

/-! How the number of files of a commit is learned. It may be counted in many runs, and by itself, while
the diffs of the server change: the diff is requested at the first count, and what was answered then is
what all counts find. Where the number is not limited, or a run does not get there, nobody counts. -/

namespace CommitAdmission

/-- A dealing with the diff of a commit: the number of its files is counted, or the diff is requested;
with the answer. -/
inductive Consultation
  | counted (answer : Except DiffFailure Nat)
  | requested (answer : Except DiffFailure Nat)

/-- The dealings with a diff that are in order, by what is known before and after: what is known is not
requested; otherwise the first count requests it, and all later counts find the same. -/
inductive Consulted : Option (Except DiffFailure Nat) → List Consultation →
    Option (Except DiffFailure Nat) → Prop
  | known (answer : Except DiffFailure Nat) (times : Nat) :
      Consulted (some answer) (List.replicate times (.counted answer)) (some answer)
  | unneeded : Consulted none [] none
  | first (answer : Except DiffFailure Nat) (times : Nat) :
      Consulted none
        (.counted answer :: .requested answer :: List.replicate times (.counted answer))
        (some answer)

namespace Consulted

variable {before between after : Option (Except DiffFailure Nat)}
  {consultations others : List Consultation}

theorem unconcerned (known : Option (Except DiffFailure Nat)) : Consulted known [] known := by
  cases known with
  | none => exact .unneeded
  | some answer => exact .known answer 0

theorem append (first : Consulted before consultations between)
    (second : Consulted between others after) : Consulted before (consultations ++ others) after := by
  cases first with
  | known answer times =>
    cases second with
    | known _ more =>
      rw [List.replicate_append_replicate]
      exact .known answer _
  | unneeded => exact second
  | first answer times =>
    cases second with
    | known _ more =>
      rw [List.cons_append, List.cons_append, List.replicate_append_replicate]
      exact .first answer _

theorem of_known (consulted : Consulted before consultations after)
    {answer : Except DiffFailure Nat} (known : before = some answer) :
    ∃ times, consultations = List.replicate times (.counted answer) := by
  cases consulted with
  | known _ times =>
    cases known
    exact ⟨times, rfl⟩
  | unneeded => cases known
  | first _ _ => cases known

theorem of_unknown (consulted : Consulted before consultations after) (unknown : before = none) :
    consultations = [] ∨ ∃ answer times, consultations =
      .counted answer :: .requested answer :: List.replicate times (.counted answer) := by
  cases consulted with
  | known _ _ => cases unknown
  | unneeded => exact .inl rfl
  | first answer times => exact .inr ⟨answer, times, rfl⟩

theorem requested_iff (consulted : Consulted before consultations after) :
    (∃ answer, .requested answer ∈ consultations) ↔
      before = none ∧ ∃ answer, .counted answer ∈ consultations := by
  cases consulted with
  | known answer times =>
    constructor
    · rintro ⟨other, member⟩
      cases List.eq_of_mem_replicate member
    · rintro ⟨unknown, _⟩
      cases unknown
  | unneeded => simp
  | first answer times =>
    constructor
    · intro _
      exact ⟨rfl, answer, List.mem_cons_self⟩
    · intro _
      exact ⟨answer, List.mem_cons_of_mem _ List.mem_cons_self⟩

end Consulted

namespace Effect

/-- What an effect has to do with the diff, where counts find a given answer. -/
def consultation? (found : Except DiffFailure Nat) : Effect → Option Consultation
  | acted .countedFiles => some (.counted found)
  | requestedDiff answer => some (.requested answer)
  | _ => none

theorem consultation?_eq_none (found : Except DiffFailure Nat) {effect : Effect}
    (unlooking : effect ≠ .acted .countedFiles) (unrequested : effect.requestedDiff? = none) :
    effect.consultation? found = none := by
  unfold consultation?
  split
  · exact absurd rfl unlooking
  · cases unrequested
  · rfl

theorem consultation?_eq_requested (found : Except DiffFailure Nat) {answer : Except DiffFailure Nat}
    {effect : Effect} :
    effect.consultation? found = some (.requested answer) ↔ effect = .requestedDiff answer := by
  constructor
  · intro shown
    unfold consultation? at shown
    split at shown
    · cases shown
    · cases shown
      rfl
    · cases shown
  · rintro rfl
    rfl

theorem consultation?_eq_counted {found answer : Except DiffFailure Nat} {effect : Effect} :
    effect.consultation? found = some (.counted answer) ↔
      effect = .acted .countedFiles ∧ answer = found := by
  constructor
  · intro shown
    unfold consultation? at shown
    split at shown
    · cases shown
      exact ⟨rfl, rfl⟩
    · cases shown
    · cases shown
  · rintro ⟨rfl, rfl⟩
    rfl

theorem filterMap_consultation?_of_unrequested (found : Except DiffFailure Nat)
    {effects : List Effect} (unrequested : effects.filterMap requestedDiff? = []) :
    ∃ times, effects.filterMap (consultation? found) = List.replicate times (.counted found) := by
  refine ⟨_, List.eq_replicate_length.mpr ?_⟩
  intro consultation member
  obtain ⟨effect, own, shown⟩ := List.mem_filterMap.mp member
  unfold consultation? at shown
  split at shown
  · exact (Option.some.inj shown).symm
  · cases List.filterMap_eq_nil_iff.mp unrequested _ own
  · cases shown

end Effect

/-- Where the number of files is looked at, the request stands after the first look. -/
theorem filterMap_consultation?_requestOnce (answer : Except DiffFailure Nat) {effects : List Effect}
    (looked : .acted .countedFiles ∈ effects)
    (unrequested : effects.filterMap Effect.requestedDiff? = []) :
    ∃ times, (requestOnce answer false effects).filterMap (Effect.consultation? answer) =
      .counted answer :: .requested answer :: List.replicate times (.counted answer) := by
  generalize unknown : false = knows
  fun_induction requestOnce answer knows effects with
  | case1 => cases looked
  | case2 knows rest ih =>
    have later : rest.filterMap Effect.requestedDiff? = [] := unrequested
    obtain ⟨times, others⟩ := Effect.filterMap_consultation?_of_unrequested answer later
    refine ⟨times, ?_⟩
    rw [← others, ← unknown, requestOnce_known]
    rfl
  | case3 knows effect rest other ih =>
    have later := (List.mem_cons.mp looked).resolve_left fun same => other same.symm
    have shown := List.filterMap_eq_nil_iff.mp unrequested
    rw [List.filterMap_cons_none (Effect.consultation?_eq_none answer other
      (shown effect List.mem_cons_self))]
    exact ih later (List.filterMap_eq_nil_iff.mpr fun own member =>
      shown own (List.mem_cons_of_mem _ member)) unknown

namespace Occasion

variable {Key : Type}

def consultations (occasion : Occasion Key) : List Consultation :=
  occasion.effects.filterMap
    (Effect.consultation? (occasion.dossier.candidate occasion.world).fileCount)

theorem requested_mem_iff (occasion : Occasion Key) (answer : Except DiffFailure Nat) :
    .requested answer ∈ occasion.consultations ↔ .requestedDiff answer ∈ occasion.effects := by
  simp only [consultations, List.mem_filterMap, Effect.consultation?_eq_requested, exists_eq_right]

theorem counted_mem_iff (occasion : Occasion Key) (answer : Except DiffFailure Nat) :
    .counted answer ∈ occasion.consultations ↔
      .acted .countedFiles ∈ occasion.effects ∧
        answer = (occasion.dossier.candidate occasion.world).fileCount := by
  simp only [consultations, List.mem_filterMap, Effect.consultation?_eq_counted]
  constructor
  · rintro ⟨_, member, rfl, same⟩
    exact ⟨member, same⟩
  · rintro ⟨member, same⟩
    exact ⟨_, member, rfl, same⟩

theorem consulted (occasion : Occasion Key) :
    Consulted occasion.dossier.fileCount? occasion.consultations
      (occasion.dossier.after occasion.effects).fileCount? := by
  have unrequested := occasion.unrequested_settled
  -- Only an inquiry changes what is known. Without one, either nobody looks or the number is known.
  by_cases inquires : occasion.Inquires
  · let found := occasion.dossier.countChanged occasion.world
    obtain ⟨times, shown⟩ := filterMap_consultation?_requestOnce found inquires.looks unrequested
    have requests : occasion.consultations =
        .counted found :: .requested found :: List.replicate times (.counted found) := by
      rw [consultations, effects_eq_request, Dossier.request, inquires.unknown]
      exact shown
    rw [inquires.unknown, inquires.dossier_after, requests]
    exact .first found times
  · rw [dossier_after_of_not_inquires inquires, consultations, effects_of_not_inquires inquires]
    cases known : occasion.dossier.fileCount? with
    | none =>
      have idle : occasion.settled.effects.filterMap (Effect.consultation?
          (occasion.dossier.candidate occasion.world).fileCount) = [] := by
        rw [List.filterMap_eq_nil_iff]
        intro effect member
        apply Effect.consultation?_eq_none
        · exact fun looks => inquires ⟨known, looks ▸ member⟩
        · exact List.filterMap_eq_nil_iff.mp unrequested effect member
      rw [idle]
      exact .unneeded
    | some answer =>
      rw [Dossier.finds_iff.mp (.known known)]
      obtain ⟨times, shown⟩ := Effect.filterMap_consultation?_of_unrequested answer unrequested
      rw [shown]
      exact .known answer times

theorem answer_of_requested {occasion : Occasion Key} {answer : Except DiffFailure Nat}
    (requests : .requestedDiff answer ∈ occasion.effects) :
    answer = (occasion.world.changedFiles occasion.dossier.project
      occasion.dossier.commit.id).map treeFiles := by
  have unknown : occasion.dossier.fileCount? = none :=
    (occasion.consulted.requested_iff.mp
      ⟨answer, (occasion.requested_mem_iff answer).mpr requests⟩).1
  rw [effects_eq_request] at requests
  rcases mem_requestOnce requests with same | own
  · rw [Effect.requestedDiff.inj same, Dossier.countChanged, unknown, ← funext countFiles_eq]
    rfl
  · cases List.filterMap_eq_nil_iff.mp occasion.unrequested_settled _ own

end Occasion

namespace Session

variable {Key : Type} [DecidableEq Key]

/-- The calls among some steps that are about one commit, each as it comes about. -/
def occasionsOf (session : Session Key) (steps : List (Step Key)) (key : Key) : List (Occasion Key) :=
  (session.occasions steps).filter fun occasion => occasion.call.key = key

theorem dossier_after_other (session : Session Key) {call : Call Key} {key : Key}
    (other : call.key ≠ key) : (session.after (.call call)).dossiers key = session.dossiers key :=
  Function.update_of_ne (Ne.symm other) _ _

theorem dossier_after_own (session : Session Key) (call : Call Key) :
    (session.after (.call call)).dossiers call.key =
      (session.dossiers call.key).after (session.occasion call).effects :=
  Function.update_self _ _ _

theorem occasionsOf_own (session : Session Key) (call : Call Key) (rest : List (Step Key)) :
    session.occasionsOf (.call call :: rest) call.key =
      session.occasion call :: (session.after (.call call)).occasionsOf rest call.key :=
  List.filter_cons_of_pos (decide_eq_true rfl)

theorem occasionsOf_other (session : Session Key) {call : Call Key} {key : Key}
    (other : call.key ≠ key) (rest : List (Step Key)) :
    session.occasionsOf (.call call :: rest) key =
      (session.after (.call call)).occasionsOf rest key :=
  List.filter_cons_of_neg fun own => other (of_decide_eq_true own)

theorem consulted (session : Session Key) (steps : List (Step Key)) (key : Key) :
    Consulted (session.dossiers key).fileCount?
      ((session.occasionsOf steps key).flatMap Occasion.consultations)
      ((session.afterAll steps).dossiers key).fileCount? := by
  -- By the first step: a change of the server and a call about another commit leave what is known of
  -- this one as it is.
  induction steps generalizing session with
  | nil => exact .unconcerned _
  | cons step rest ih =>
    cases step with
    | change world => exact ih (session.after (.change world))
    | call call =>
      have later := ih (session.after (.call call))
      by_cases own : call.key = key
      · subst own
        rw [dossier_after_own] at later
        rw [occasionsOf_own, List.flatMap_cons]
        exact (session.occasion call).consulted.append later
      · rw [dossier_after_other session own] at later
        rw [occasionsOf_other session own]
        exact later

theorem received_of_mem_occasionsOf (session : Session Key) (steps : List (Step Key)) (key : Key) :
    ∀ occasion ∈ session.occasionsOf steps key,
      occasion.dossier.toReceivedCommit = (session.dossiers key).toReceivedCommit := by
  induction steps generalizing session with
  | nil => exact List.forall_mem_nil _
  | cons step rest ih =>
    cases step with
    | change world => exact ih (session.after (.change world))
    | call call =>
      have later := ih (session.after (.call call))
      by_cases own : call.key = key
      · subst own
        rw [dossier_after_own, Dossier.toReceivedCommit_after] at later
        rw [occasionsOf_own]
        exact List.forall_mem_cons.mpr ⟨rfl, later⟩
      · rw [dossier_after_other session own] at later
        rw [occasionsOf_other session own]
        exact later

end Session

theorem FileCounting.looks_iff {maxFiles : UInt64} {host : String} {candidate : Candidate}
    {check : Check Info} (counting : FileCounting maxFiles host candidate check) :
    .countedFiles ∈ check.acts ↔ limitsFiles candidate.ref = true := by
  cases counting with
  | unlimited free same => simp [same, free]
  | unavailable limited _ same => simp [same, limited]
  | exceeding limited _ _ same => simp [same, limited]
  | ordinary limited _ _ _ same => simp [same, limited]
  | large limited _ _ _ same => simp [same, limited]

theorem Validator.Frugal.unlooking {validator : Validator} (frugal : validator.Frugal)
    (world : Collaborators) (candidate : Candidate) :
    .countedFiles ∉ (validator.judge world candidate).acts :=
  fun looks => frugal world candidate _ looks

theorem Plugin.looks_iff (plugin : Plugin) (world : Collaborators) (candidate : Candidate) :
    .countedFiles ∈ (plugin.validator.judge world candidate).acts ↔
      (plugin.deliberate candidate.toReceivedCommit).counts = true := by
  rw [plugin.acts_validator, List.mem_cons, ← Deliberation.counted_iff candidate]
  exact or_iff_right nofun

theorem Validator.looks_skippable_iff (validator : Validator) (skip : Bool) (world : Collaborators)
    (candidate : Candidate) :
    .countedFiles ∈ ((validator.skippable skip).judge world candidate).acts ↔
      (skip = true → validator.validatesAll = true) ∧
        .countedFiles ∈ (validator.judge world candidate).acts := by
  have silent : .countedFiles ∉ (Check.emit (.ofMessage .debug [("validator", validator.name)]
      "skipped by user") >>= fun _ => pure Info.skipped : Check Info).acts :=
    fun member => nomatch List.mem_singleton.mp member
  rw [skippable]
  cases skip <;> cases validator.validatesAll <;> simp [silent]

theorem Request.wrap_looks_iff (request : Request) (scenario : Scenario) (plugin : Plugin)
    (world : Collaborators) (candidate : Candidate) :
    .countedFiles ∈ ((request.wrap scenario plugin).judge world candidate).acts ↔
      (scenario = .receive → request.skipValidation = true → plugin.validatesAll = true) ∧
        (plugin.deliberate candidate.toReceivedCommit).counts = true := by
  rw [← plugin.looks_iff world candidate]
  cases scenario with
  | receive =>
    refine (Validator.looks_skippable_iff _ _ world candidate).trans ?_
    exact and_congr_left fun _ => ⟨fun insists _ => insists, fun insists => insists rfl⟩
  | server => exact (and_iff_right fun receive => nomatch receive).symm
  | merged => exact (and_iff_right fun receive => nomatch receive).symm

namespace Factory

/-- All checks before some plugin pass, and the plugin, which is not to be skipped, counts the files of
the commit. -/
def PluginCounts (factory : Factory) (request : Request) (project : ProjectState)
    (scenario : Scenario) (world : Collaborators) (candidate : Candidate) : Prop :=
  ∃ earlier plugin later, plugin ∈ factory.plugins ∧
    factory.validators request project scenario =
      earlier ++ request.wrap scenario plugin :: later ∧
    (∀ validator ∈ earlier, validator.Passes world candidate) ∧
    (scenario = .receive → request.skipValidation = true → plugin.validatesAll = true) ∧
    (plugin.deliberate candidate.toReceivedCommit).counts = true

variable {factory : Factory} {request : Request} {project : ProjectState} {world : Collaborators}
  {dossier : Dossier}

theorem unlooking_merged (options : RunOptions) :
    .acted .countedFiles ∉
      ((factory.chain request project .merged).validate world dossier options).effects := by
  intro looked
  obtain ⟨before, validator, after, split, _, looks⟩ := (Chain.looked_iff options).mp looked
  have listed : validator ∈ factory.mergedValidators request project := by
    rw [show factory.mergedValidators request project = _ from split]
    exact List.mem_append_right _ List.mem_cons_self
  exact (factory.frugal_merged request project validator listed).unlooking _ _ looks

/-- A run gets to count files only after the checks that come before the limit on their number. -/
theorem reached_of_looked {scenario : Scenario} {before after : List Validator}
    {validator : Validator} (unmerged : scenario ≠ .merged)
    (split : factory.validators request project scenario = before ++ validator :: after)
    (looks : .countedFiles ∈ (validator.judge world (dossier.candidate world)).acts) :
    factory.beforeCounting request project <+: before := by
  rw [factory.validators_eq request project unmerged] at split
  rcases List.append_eq_append_iff.mp split with ⟨later, same, _⟩ | ⟨others, same, rest⟩
  · exact ⟨later, same.symm⟩
  · cases others with
    | nil => exact ⟨[], by simp [same]⟩
    | cons first others =>
      obtain ⟨rfl, _⟩ := List.cons.inj rest
      have early : validator ∈ factory.beforeCounting request project := by
        rw [same]
        exact List.mem_append_right _ List.mem_cons_self
      exact absurd looks ((factory.frugal_beforeCounting request project _ early).unlooking _ _)

theorem counts_of_looks {scenario : Scenario} {validator : Validator}
    (unmerged : scenario ≠ .merged) (listed : validator ∈ factory.validators request project scenario)
    (looks : .countedFiles ∈ (validator.judge world (dossier.candidate world)).acts) :
    limitsFiles dossier.ref = true ∨
      ∃ plugin ∈ factory.plugins, validator = request.wrap scenario plugin := by
  rw [factory.validators_eq request project unmerged, afterCounting] at listed
  simp only [List.mem_append, List.mem_cons, List.mem_map] at listed
  have spendthrift (frugal : validator.Frugal) : False := frugal.unlooking _ _ looks
  rcases listed with early | rfl | (between | ⟨plugin, own, rfl⟩) | late
  · exact (spendthrift (factory.frugal_beforeCounting request project _ early)).elim
  · exact .inl ((fileCounting _ _ world _).looks_iff.mp looks)
  · exact (spendthrift (factory.frugal_beforePlugins request project scenario _ between)).elim
  · exact .inr ⟨plugin, own, rfl⟩
  · exact (spendthrift (factory.frugal_trailing _ late)).elim

/-- When the number of files is looked at in a run: all checks before the limit on it pass, and there is
such a limit, or else the run gets to a plugin that counts. -/
theorem looked_iff (scenario : Scenario) (options : RunOptions) :
    .acted .countedFiles ∈
      ((factory.chain request project scenario).validate world dossier options).effects ↔
    scenario ≠ .merged ∧
      (∀ validator ∈ factory.beforeCounting request project,
        validator.Passes world (dossier.candidate world)) ∧
      (("refs/for/".toList <+: dossier.ref.toList ∨ "refs/changes/".toList <+: dossier.ref.toList) ∨
        factory.PluginCounts request project scenario world (dossier.candidate world)) := by
  rw [← limitsFiles_iff]
  constructor
  · intro looked
    have unmerged : scenario ≠ .merged := by
      rintro rfl
      exact unlooking_merged options looked
    obtain ⟨before, validator, after, split, reached, looks⟩ := (Chain.looked_iff options).mp looked
    have listed : validator ∈ factory.validators request project scenario := by
      rw [show factory.validators request project scenario = _ from split]
      exact List.mem_append_right _ List.mem_cons_self
    refine ⟨unmerged, ?_, ?_⟩
    · intro early member
      exact reached early ((reached_of_looked unmerged split looks).mem member)
    · rcases counts_of_looks unmerged listed looks with limited | ⟨plugin, own, rfl⟩
      · exact .inl limited
      · have counts := (request.wrap_looks_iff scenario plugin world _).mp looks
        exact .inr ⟨before, plugin, after, own, split, reached, counts.1, counts.2⟩
  · rintro ⟨unmerged, reached, limited | ⟨earlier, plugin, later, _, split, passes, called, counts⟩⟩
    · have looks := (fileCounting factory.settings.maxFiles factory.settings.baseUrl world
        (dossier.candidate world)).looks_iff.mpr limited
      exact (Chain.looked_iff options).mpr
        ⟨_, _, _, factory.validators_eq request project unmerged, reached, looks⟩
    · have looks := (request.wrap_looks_iff scenario plugin world _).mpr ⟨called, counts⟩
      exact (Chain.looked_iff options).mpr ⟨earlier, _, later, split, passes, looks⟩

end Factory

end CommitAdmission
