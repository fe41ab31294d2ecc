import CommitAdmission.Proofs.BuiltIn
import CommitAdmission.Proofs.Run

namespace CommitAdmission

variable {world : Collaborators} {candidate : Candidate}

def plainEntries (validators : List Validator) : List (String × Info) :=
  validators.map fun validator => (validator.name, .plain)

theorem Passed.entries_of_builtIn {validators : List Validator} {infos : List Info}
    (passed : Passed world candidate validators infos)
    (builtIn : ∀ validator ∈ validators, validator.BuiltIn) :
    (validators.map Validator.name).zip infos = plainEntries validators := by
  induction validators generalizing infos with
  | nil => rfl
  | cons validator rest ih =>
    cases infos with
    | nil => cases passed
    | cons info infos =>
      obtain ⟨own, others⟩ := List.cons.inj passed
      have plain : info = .plain := (builtIn validator List.mem_cons_self).plain _ _ _ own
      have tail := ih others fun other member => builtIn other (List.mem_cons_of_mem _ member)
      rw [List.map_cons, List.zip_cons_cons, tail, plain]
      rfl

namespace Plugin

theorem outcome_kept (plugin : Plugin) (skip : Bool) (kept : skip = false ∨ plugin.validatesAll) :
    (plugin.validator.skippable skip).outcome world candidate = plugin.decide candidate := by
  have unskipped : (skip && !plugin.validator.validatesAll) = false := by
    rcases kept with rfl | insists
    · rfl
    · rw [show plugin.validator.validatesAll = true from insists]
      cases skip <;> rfl
  simp only [Validator.outcome, Validator.skippable, unskipped]
  rfl

theorem outcome_skipped (plugin : Plugin) (yields : plugin.validatesAll = false) :
    (plugin.validator.skippable true).outcome world candidate = .ok .skipped := by
  have skipped : (true && !plugin.validator.validatesAll) = true := by
    rw [show plugin.validator.validatesAll = false from yields]
    rfl
  simp only [Validator.outcome, Validator.skippable, skipped]
  rfl

/-- What a run with skipping reports for a plugin that reports an info without it. -/
def reportSkipping (plugin : Plugin) (info : Info) : Info :=
  if plugin.validatesAll then info else ⟨.skippedByUser, .empty, []⟩

theorem passed_kept_iff (plugins : List Plugin) (infos : List Info) :
    Passed world candidate (plugins.map fun plugin => plugin.validator.skippable false) infos ↔
      plugins.map (fun plugin => plugin.decide candidate) = infos.map .ok := by
  have outcomes : (plugins.map fun plugin => plugin.validator.skippable false).map
      (Validator.outcome world candidate) =
        plugins.map fun plugin => plugin.decide candidate := by
    rw [List.map_map]
    apply List.map_congr_left
    intro plugin _
    exact plugin.outcome_kept false (.inl rfl)
  rw [Passed, outcomes]

theorem passed_skipping {plugins : List Plugin} {infos : List Info}
    (passed : plugins.map (fun plugin => plugin.decide candidate) = infos.map .ok) :
    Passed world candidate (plugins.map fun plugin => plugin.validator.skippable true)
      (List.zipWith reportSkipping plugins infos) := by
  induction plugins generalizing infos with
  | nil => rfl
  | cons plugin rest ih =>
    cases infos with
    | nil => cases passed
    | cons info infos =>
      obtain ⟨own, others⟩ := List.cons.inj passed
      rw [List.map_cons, List.zipWith_cons_cons]
      apply Passed.cons _ (ih others)
      unfold reportSkipping
      split
      · rename_i insists
        rw [plugin.outcome_kept true (.inr insists)]
        exact own
      · rename_i yields
        exact plugin.outcome_skipped (Bool.eq_false_iff.mpr yields)

theorem called_skippable (plugin : Plugin) :
    ((plugin.validator.skippable true).judge world candidate).acts.filterMap Act.calledPlugin? =
      if plugin.validatesAll then [plugin.tag] else [] := by
  have insisting : plugin.validator.validatesAll = plugin.validatesAll := rfl
  cases insists : plugin.validatesAll with
  | true =>
    simp only [Validator.skippable, insisting, insists]
    exact plugin.called world candidate
  | false =>
    simp only [Validator.skippable, insisting, insists]
    rfl

end Plugin

theorem Validator.BuiltIn.called_eq_nil {validator : Validator} (builtIn : validator.BuiltIn) :
    (validator.judge world candidate).acts.filterMap Act.calledPlugin? = [] :=
  List.filterMap_eq_nil_iff.mpr (builtIn.own world candidate)

namespace Chain

def pluginsCalled (world : Collaborators) (candidate : Candidate) (called : List Validator) :
    List Nat :=
  called.flatMap fun validator =>
    (validator.judge world candidate).acts.filterMap Act.calledPlugin?

theorem pluginsCalled_append (first second : List Validator) :
    pluginsCalled world candidate (first ++ second) =
      pluginsCalled world candidate first ++ pluginsCalled world candidate second :=
  List.flatMap_append

theorem filterMap_calledPlugin?_actsOf (called : List Validator) :
    (actsOf world candidate called).filterMap Act.calledPlugin? =
      pluginsCalled world candidate called :=
  filterMap_actsOf Act.calledPlugin? Act.calledPlugin?_inside called

theorem pluginsCalled_builtIn {validators : List Validator}
    (builtIn : ∀ validator ∈ validators, validator.BuiltIn) :
    pluginsCalled world candidate validators = [] := by
  rw [pluginsCalled, List.flatMap_eq_nil_iff]
  intro validator member
  exact (builtIn validator member).called_eq_nil

theorem pluginsCalled_skipping (plugins : List Plugin) :
    pluginsCalled world candidate (plugins.map fun plugin => plugin.validator.skippable true) =
      (plugins.filter Plugin.validatesAll).map Plugin.tag := by
  induction plugins with
  | nil => rfl
  | cons plugin rest ih =>
    rw [pluginsCalled] at ih ⊢
    rw [List.map_cons, List.flatMap_cons, plugin.called_skippable, ih, List.filter_cons]
    split <;> rfl

/-- The plugins that a run calls are the first of those that its whole chain would call. -/
theorem calledPlugins_prefix (world : Collaborators) (chain : Chain) (dossier : Dossier)
    (options : RunOptions) :
    (chain.validate world dossier options).effects.filterMap Effect.calledPlugin? <+:
      pluginsCalled world (dossier.candidate world) chain.validators := by
  obtain ⟨called, ⟨uncalled, whole⟩, acts⟩ := exists_called world chain dossier options
  have log : (chain.validate world dossier options).effects.filterMap Effect.calledPlugin? =
      pluginsCalled world (dossier.candidate world) called := by
    rw [← filterMap_calledPlugin?_actsOf, ← acts, List.filterMap_filterMap]
    rfl
  rw [log, ← whole, pluginsCalled_append]
  exact List.prefix_append _ _

end Chain

namespace Factory

variable (factory : Factory) (request : Request) (project : ProjectState)

def receiveChain (skip : Bool) : Chain :=
  factory.chain { request with skipValidation := skip } project .receive

theorem validators_receiveChain (skip : Bool) :
    (factory.receiveChain request project skip).validators =
      factory.leading request project ++
        factory.plugins.map (fun plugin => plugin.validator.skippable skip) ++ factory.trailing :=
  rfl

theorem names_receiveChain (skip : Bool) :
    (factory.receiveChain request project skip).names =
      (factory.leading request project).map Validator.name ++ factory.plugins.map Plugin.name ++
        factory.trailing.map Validator.name := by
  have names : (factory.plugins.map fun plugin => plugin.validator.skippable skip).map
      Validator.name = factory.plugins.map Plugin.name := by
    rw [List.map_map]
    rfl
  rw [Chain.names, validators_receiveChain, List.map_append, List.map_append, names]

theorem passed_receiveChain_iff {skip : Bool} {infos : List Info} :
    Passed world candidate (factory.receiveChain request project skip).validators infos ↔
      ∃ first own last, infos = first ++ own ++ last ∧
        Passed world candidate (factory.leading request project) first ∧
        Passed world candidate
          (factory.plugins.map fun plugin => plugin.validator.skippable skip) own ∧
        Passed world candidate factory.trailing last := by
  rw [validators_receiveChain, passed_append_iff]
  constructor
  · intro given
    obtain ⟨front, last, rfl, passed, finish⟩ := given
    obtain ⟨first, own, rfl, start, middle⟩ := passed_append_iff.mp passed
    exact ⟨first, own, last, rfl, start, middle, finish⟩
  · intro given
    obtain ⟨first, own, last, rfl, start, middle, finish⟩ := given
    exact ⟨first ++ own, last, rfl, passed_append_iff.mpr ⟨first, own, rfl, start, middle⟩, finish⟩

theorem entries_receiveChain {skip : Bool} {first own last : List Info}
    (start : Passed world candidate (factory.leading request project) first)
    (middle : Passed world candidate
      (factory.plugins.map fun plugin => plugin.validator.skippable skip) own)
    (finish : Passed world candidate factory.trailing last) :
    (factory.receiveChain request project skip).names.zip (first ++ own ++ last) =
      plainEntries (factory.leading request project) ++
        (factory.plugins.map Plugin.name).zip own ++ plainEntries factory.trailing := by
  have startLength : ((factory.leading request project).map Validator.name).length =
      first.length := by
    rw [List.length_map]
    exact start.length_eq
  have middleLength : (factory.plugins.map Plugin.name).length = own.length := by
    rw [List.length_map, ← middle.length_eq, List.length_map]
  have frontLength : ((factory.leading request project).map Validator.name ++
      factory.plugins.map Plugin.name).length = (first ++ own).length := by
    rw [List.length_append, List.length_append, startLength, middleLength]
  rw [names_receiveChain, List.zip_append frontLength, List.zip_append startLength,
    start.entries_of_builtIn (factory.builtIn_leading request project),
    finish.entries_of_builtIn factory.builtIn_trailing]

theorem validate_eq_of_leading_rejects {validator : Validator} {rejection : Rejection}
    {dossier : Dossier} (member : validator ∈ factory.leading request project)
    (rejects : validator.outcome world (dossier.candidate world) = .error rejection)
    (options : RunOptions) (skip : Bool) :
    (factory.receiveChain request project skip).validate world dossier options =
      (factory.receiveChain request project false).validate world dossier options := by
  rcases all_pass_or_first_rejection world (dossier.candidate world)
      (factory.leading request project) with
    ⟨infos, passed⟩ | ⟨before, last, after, infos, rejection, split, first⟩
  · obtain ⟨info, passes⟩ := passed.outcome_of_mem member
    rw [rejects] at passes
    cases passes
  · have parts (skip : Bool) : (factory.receiveChain request project skip).validators =
        before ++ last :: (after ++
          (factory.plugins.map (fun plugin => plugin.validator.skippable skip) ++
            factory.trailing)) := by
      rw [validators_receiveChain, split]
      simp
    have opening : (factory.receiveChain request project skip).opening dossier.toReceivedCommit =
        (factory.receiveChain request project false).opening dossier.toReceivedCommit := by
      simp [Chain.opening, validators_receiveChain]
    rw [Chain.validate_of_rejected (parts skip) first,
      Chain.validate_of_rejected (parts false) first, opening]

theorem accepted_skipping {dossier : Dossier} {infos : Infos} (options : RunOptions)
    (accepted : ((factory.receiveChain request project false).validate world dossier
      options).verdict = .ok infos) :
    ∃ own : List Info,
      factory.plugins.map (fun plugin => plugin.decide (dossier.candidate world)) = own.map .ok ∧
      infos.entries = plainEntries (factory.leading request project) ++
        (factory.plugins.map Plugin.name).zip own ++ plainEntries factory.trailing ∧
      ((factory.receiveChain request project true).validate world dossier options).verdict =
        .ok ⟨plainEntries (factory.leading request project) ++
          (factory.plugins.map Plugin.name).zip
            (List.zipWith Plugin.reportSkipping factory.plugins own) ++
          plainEntries factory.trailing⟩ := by
  obtain ⟨all, passed, rfl⟩ := (Chain.verdict_eq_ok_iff _ _ _ _ _).mp accepted
  obtain ⟨first, own, last, rfl, start, middle, finish⟩ :=
    (factory.passed_receiveChain_iff request project).mp passed
  have decided := (Plugin.passed_kept_iff _ _).mp middle
  have skipped : Passed world (dossier.candidate world) _ _ := Plugin.passed_skipping decided
  refine ⟨own, decided, factory.entries_receiveChain request project start middle finish, ?_⟩
  apply (Chain.verdict_eq_ok_iff _ _ _ _ _).mpr
  refine ⟨first ++ List.zipWith Plugin.reportSkipping factory.plugins own ++ last, ?_, ?_⟩
  · exact (factory.passed_receiveChain_iff request project).mpr
      ⟨first, _, last, rfl, start, skipped, finish⟩
  · rw [factory.entries_receiveChain request project start skipped finish]

theorem rejected_by_skippable {skipped first last : List Info}
    (start : Passed world candidate (factory.leading request project) first)
    (middle : Passed world candidate
      (factory.plugins.map fun plugin => plugin.validator.skippable true) skipped)
    (finish : Passed world candidate factory.trailing last)
    (rejected : ∀ own,
      ¬ Passed world candidate (factory.receiveChain request project false).validators own) :
    ∃ before plugin after passed own,
      factory.plugins = before ++ plugin :: after ∧ plugin.validatesAll = false ∧
      FirstRejection world candidate
        (factory.leading request project ++
          before.map fun earlier => earlier.validator.skippable false)
        passed (plugin.validator.skippable false) own := by
  rcases all_pass_or_first_rejection world candidate
      (factory.plugins.map fun plugin => plugin.validator.skippable false) with
    ⟨kept, passed⟩ | ⟨before, validator, after, kept, rejection, split, reject⟩
  · exact absurd
      ((factory.passed_receiveChain_iff request project).mpr
        ⟨first, kept, last, rfl, start, passed, finish⟩)
      (rejected _)
  · obtain ⟨earlier, others, plugins, rfl, rest⟩ := List.map_eq_append_iff.mp split
    obtain ⟨plugin, later, rfl, rfl, rfl⟩ := List.map_eq_cons_iff.mp rest
    have decides : plugin.decide candidate = .error rejection := by
      rw [← plugin.outcome_kept false (.inl rfl)]
      exact reject.rejected
    have yields : plugin.validatesAll = false := by
      cases insists : plugin.validatesAll with
      | false => rfl
      | true =>
        -- it would have rejected with skipping as well
        have member : plugin.validator.skippable true ∈
            factory.plugins.map fun plugin => plugin.validator.skippable true := by
          rw [plugins]
          exact List.mem_map_of_mem (List.mem_append_right _ List.mem_cons_self)
        obtain ⟨info, passes⟩ := middle.outcome_of_mem member
        rw [plugin.outcome_kept true (.inr insists), decides] at passes
        cases passes
    refine ⟨earlier, plugin, later, first ++ kept, rejection, plugins, yields, ?_, reject.rejected⟩
    exact passed_append_iff.mpr ⟨first, kept, rfl, start, reject.passed⟩

theorem rejected_unless_skipping {dossier : Dossier} {infos : Infos} {rejection : Rejection}
    (options : RunOptions)
    (rejected : ((factory.receiveChain request project false).validate world dossier
      options).verdict = .error rejection)
    (accepted : ((factory.receiveChain request project true).validate world dossier
      options).verdict = .ok infos) :
    ∃ before plugin after passed own,
      factory.plugins = before ++ plugin :: after ∧ plugin.validatesAll = false ∧
      FirstRejection world (dossier.candidate world)
        (factory.leading request project ++
          before.map fun earlier => earlier.validator.skippable false)
        passed (plugin.validator.skippable false) own ∧
      rejection = ⟨own.reason, passed.flatMap Info.messages ++ own.messages, own.kind⟩ := by
  obtain ⟨all, passed, rfl⟩ := (Chain.verdict_eq_ok_iff _ _ _ _ _).mp accepted
  obtain ⟨start, skipped, last, rfl, starts, middle, finish⟩ :=
    (factory.passed_receiveChain_iff request project).mp passed
  have fails (own : List Info) : ¬ Passed world (dossier.candidate world)
      (factory.receiveChain request project false).validators own := by
    intro passed
    have verdict := (Chain.verdict_eq_ok_iff _ _ _ options _).mpr ⟨own, passed, rfl⟩
    rw [rejected] at verdict
    cases verdict
  obtain ⟨before, plugin, after, infos, own, plugins, yields, first⟩ :=
    factory.rejected_by_skippable request project starts middle finish fails
  have split : (factory.receiveChain request project false).validators =
      (factory.leading request project ++
        before.map fun earlier => earlier.validator.skippable false) ++
        plugin.validator.skippable false ::
          ((after.map fun later => later.validator.skippable false) ++ factory.trailing) := by
    rw [validators_receiveChain, plugins]
    simp
  refine ⟨before, plugin, after, infos, own, plugins, yields, first, ?_⟩
  rw [Chain.validate_of_rejected split first] at rejected
  exact (Except.error.inj rejected).symm

theorem calledPlugins_skipping (dossier : Dossier) (options : RunOptions) :
    ((factory.receiveChain request project true).validate world dossier
      options).effects.filterMap Effect.calledPlugin? <+:
        (factory.plugins.filter Plugin.validatesAll).map Plugin.tag := by
  have log := Chain.calledPlugins_prefix world (factory.receiveChain request project true) dossier
    options
  rw [validators_receiveChain, Chain.pluginsCalled_append, Chain.pluginsCalled_append,
    Chain.pluginsCalled_builtIn (factory.builtIn_leading request project),
    Chain.pluginsCalled_builtIn factory.builtIn_trailing, Chain.pluginsCalled_skipping,
    List.nil_append, List.append_nil] at log
  exact log

/-- What a user who asks to skip validation gains: a rejection before the plugins stays as it is; a
commit that passes without skipping passes with it, and the reports differ for the plugins that can be
skipped only; a commit that passes because of skipping was rejected by such a plugin; and no such
plugin is called. -/
theorem skipping_bypasses_only_skippable_plugins (factory : Factory) (request : Request)
    (project : ProjectState) (world : Collaborators) (dossier : Dossier) (options : RunOptions) :
    let candidate := dossier.candidate world
    let leading := factory.leading request project
    let trailing := factory.trailing
    let run (skip : Bool) :=
      (factory.receiveChain request project skip).validate world dossier options
    (∀ validator ∈ leading, ∀ rejection, validator.outcome world candidate = .error rejection →
      run true = run false) ∧
    (∀ infos, (run false).verdict = .ok infos →
      ∃ own : List Info,
        factory.plugins.map (fun plugin => plugin.decide candidate) = own.map .ok ∧
        infos.entries = plainEntries leading ++ (factory.plugins.map Plugin.name).zip own ++
          plainEntries trailing ∧
        (run true).verdict = .ok ⟨plainEntries leading ++
          (factory.plugins.map Plugin.name).zip
            (List.zipWith Plugin.reportSkipping factory.plugins own) ++
          plainEntries trailing⟩) ∧
    (∀ rejection infos, (run false).verdict = .error rejection → (run true).verdict = .ok infos →
      ∃ before plugin after passed own,
        factory.plugins = before ++ plugin :: after ∧ plugin.validatesAll = false ∧
        FirstRejection world candidate
          (leading ++ before.map fun earlier => earlier.validator.skippable false) passed
          (plugin.validator.skippable false) own ∧
        rejection = ⟨own.reason, passed.flatMap Info.messages ++ own.messages, own.kind⟩) ∧
    (run true).effects.filterMap Effect.calledPlugin? <+:
      (factory.plugins.filter Plugin.validatesAll).map Plugin.tag ∧
    ∀ validator ∈ leading ++ trailing, ∀ info, validator.outcome world candidate = .ok info →
      info = ⟨.passed, .empty, []⟩ := by
  intro candidate leading trailing run
  refine ⟨?_, ?_, ?_, ?_, ?_⟩
  · intro validator member rejection rejects
    exact factory.validate_eq_of_leading_rejects request project member rejects options true
  · intro infos accepted
    exact factory.accepted_skipping request project options accepted
  · intro rejection infos rejected accepted
    exact factory.rejected_unless_skipping request project options rejected accepted
  · exact factory.calledPlugins_skipping request project dossier options
  · intro validator member info passes
    rcases List.mem_append.mp member with early | late
    · exact (factory.builtIn_leading request project validator early).plain _ _ _ passes
    · exact (factory.builtIn_trailing validator late).plain _ _ _ passes

end Factory

end CommitAdmission
