import CommitAdmission.Proofs.Announcements
import CommitAdmission.Proofs.Turns

/-! Listeners only listen. A run with listeners is the run without any, followed by the calls of the
listeners and the record of those that failed; what a listener does with a call is of no consequence
for the verdict, for the validators, or for the other listeners. -/

namespace CommitAdmission

/-- What is done when listeners are told: they are called, they say something, and it is recorded that
a call did not succeed. -/
inductive Effect.Telling : Effect → Prop
  | notified (notification : Notification) : Telling (.notified notification)
  | remarked (event : TraceEvent) : Telling (.remarked event)
  | counted : Telling (.counted .listenersFailed)
  | reported (listener error : String) :
      Telling (.emitted (Announcement.listenerFailed listener error).event)

structure Effect.Quiet (effect : Effect) : Prop where
  unnotified : effect.notified? = none
  uncounted : effect.counted? ≠ some .listenersFailed
  unwarned : ∀ event, effect.announced? = some event → event.level ≠ .warn

theorem Effect.quiet_acted (act : Act) : (Effect.acted act).Quiet where
  unnotified := rfl
  uncounted same := by cases same
  unwarned _ same := by cases same

theorem Effect.quiet_requestedDiff (answer : Except DiffFailure Nat) :
    (Effect.requestedDiff answer).Quiet where
  unnotified := rfl
  uncounted same := by cases same
  unwarned _ same := by cases same

theorem Effect.quiet_counted {counter : Counter} (other : counter ≠ .listenersFailed) :
    (Effect.counted counter).Quiet where
  unnotified := rfl
  uncounted same := other (Option.some.inj same)
  unwarned _ same := by cases same

theorem Effect.quiet_emitted {event : TraceEvent} (calm : event.level ≠ .warn) :
    (Effect.emitted event).Quiet where
  unnotified := rfl
  uncounted same := by cases same
  unwarned _ same := by
    cases same
    exact calm

theorem Effect.Quiet.inside {effect : Effect} (quiet : effect.Quiet) (span : Span) :
    (effect.inside span).Quiet := by
  cases effect with
  | emitted event => exact quiet_emitted (quiet.unwarned event rfl)
  | acted act => exact quiet_acted _
  | requestedDiff answer => exact quiet
  | counted counter => exact quiet
  | notified notification => exact quiet
  | remarked event => exact ⟨rfl, quiet.uncounted, fun _ same => nomatch same⟩

namespace Listener

variable (infos : Infos) (received : ReceivedCommit) (patchSet : Option PatchSetId)

theorem telling_notify (listener : Listener) :
    ∀ effect ∈ (listener.notify infos received patchSet).map (Effect.inside .run),
      effect.Telling := by
  rw [notify, List.map_cons, List.map_append, List.map_map, List.forall_mem_cons,
    List.forall_mem_append, List.forall_mem_map]
  refine ⟨.notified _, fun _ _ => .remarked _, ?_⟩
  unfold report
  split
  · exact List.forall_mem_nil _
  · simp only [List.map_cons, List.map_nil, List.forall_mem_cons]
    exact ⟨.counted, .reported _ _, List.forall_mem_nil _⟩

theorem filterMap_notified?_notify (listener : Listener) :
    (listener.notify infos received patchSet).filterMap Effect.notified? =
      [⟨listener.name, infos, received, patchSet⟩] := by
  rw [listener.filterMap_notify fun _ => rfl, report]
  split <;> rfl

end Listener

namespace Chain

def withListeners (chain : Chain) (listeners : List Listener) : Chain := { chain with listeners }

def told (listeners : List Listener) (verdict : Except Rejection Infos) (received : ReceivedCommit)
    (options : RunOptions) : List Effect :=
  match verdict with
  | .error _ => []
  | .ok infos =>
    if options.invokeListeners then
      (listeners.flatMap (Listener.notify infos received options.patchSet)).map (Effect.inside .run)
    else []

theorem telling_told (listeners : List Listener) (verdict : Except Rejection Infos)
    (received : ReceivedCommit) (options : RunOptions) :
    ∀ effect ∈ told listeners verdict received options, effect.Telling := by
  intro effect member
  unfold told at member
  split at member
  · cases member
  · split at member
    · rw [List.map_flatMap, List.mem_flatMap] at member
      obtain ⟨listener, _, own⟩ := member
      exact listener.telling_notify _ _ _ effect own
    · cases member

theorem afterPassing_withListeners (chain : Chain) (options : RunOptions) (infos : Infos)
    (received : ReceivedCommit) (listeners : List Listener) :
    ((chain.withListeners listeners).afterPassing options infos received).map (.inside .run) =
      ((chain.withListeners []).afterPassing options infos received).map (.inside .run) ++
        told listeners (.ok infos) received options := by
  cases invoked : options.invokeListeners with
  | true => simp [afterPassing, notifyListeners, withListeners, told, invoked]
  | false => simp [afterPassing, told, invoked]

theorem unlooking_told (listeners : List Listener) (verdict : Except Rejection Infos)
    (received : ReceivedCommit) (options : RunOptions) :
    ∀ effect ∈ told listeners verdict received options, effect ≠ .acted .countedFiles := by
  intro effect member looks
  rw [looks] at member
  cases telling_told listeners verdict received options _ member

theorem quiet_turn {world : Collaborators} {candidate : Candidate} (passed : Bool)
    (validator : Validator) : ∀ effect ∈ turn world candidate passed validator, effect.Quiet := by
  intro effect member
  rcases List.mem_append.mp member with own | record
  · obtain ⟨act, _, rfl⟩ := List.mem_map.mp own
    exact Effect.quiet_acted _
  · simp only [List.mem_cons, List.not_mem_nil, or_false] at record
    rcases record with rfl | rfl
    · exact Effect.quiet_counted (by decide)
    · exact Effect.quiet_emitted (show Level.debug ≠ .warn by decide)

theorem quiet_runFrom (world : Collaborators) (candidate : Candidate) (infos : Infos)
    (validators : List Validator) :
    ∀ effect ∈ (runFrom world candidate infos validators).effects, effect.Quiet := by
  induction validators generalizing infos with
  | nil => exact fun effect member => absurd member List.not_mem_nil
  | cons validator rest ih =>
    intro effect member
    cases outcome : validator.outcome world candidate with
    | ok info =>
      rw [runFrom_cons_of_ok outcome] at member
      rcases List.mem_append.mp member with own | later
      · exact quiet_turn true validator effect own
      · exact ih _ effect later
    | error rejection =>
      rw [runFrom_cons_of_error outcome] at member
      rcases List.mem_append.mp member with own | finish
      · exact quiet_turn false validator effect own
      · simp only [afterRejecting, List.mem_cons, List.not_mem_nil, or_false] at finish
        rcases finish with rfl | rfl
        · exact Effect.quiet_counted (by decide)
        · exact Effect.quiet_emitted (show Level.info ≠ .warn by decide)

theorem quiet_silent (world : Collaborators) (chain : Chain) (dossier : Dossier)
    (options : RunOptions) :
    ∀ effect ∈ ((chain.withListeners []).validate world dossier options).effects,
      effect.Quiet := by
  intro effect member
  rcases mem_requestOnce member with rfl | own
  · exact Effect.quiet_requestedDiff _
  · obtain ⟨plain, inside, rfl⟩ := List.mem_map.mp own
    apply Effect.Quiet.inside
    rcases List.mem_append.mp inside with front | finish
    · rcases List.mem_append.mp front with start | turns
      · simp only [opening, List.mem_cons, List.not_mem_nil, or_false] at start
        rcases start with rfl | rfl
        · exact Effect.quiet_counted (by decide)
        · exact Effect.quiet_emitted (show Level.info ≠ .warn by decide)
      · exact quiet_runFrom _ _ _ _ plain turns
    · split at finish
      · simp only [afterPassing, notifyListeners, withListeners, List.flatMap_nil, ite_self,
          List.mem_singleton] at finish
        subst finish
        exact Effect.quiet_emitted (show Level.info ≠ .warn by decide)
      · cases finish

theorem validate_withListeners (world : Collaborators) (chain : Chain) (dossier : Dossier)
    (options : RunOptions) (listeners : List Listener) :
    let silent := (chain.withListeners []).validate world dossier options
    (chain.withListeners listeners).validate world dossier options =
      ⟨silent.verdict,
        silent.effects ++ told listeners silent.verdict dossier.toReceivedCommit options⟩ := by
  intro silent
  rcases all_pass_or_first_rejection world (dossier.candidate world) chain.validators with
    ⟨infos, passed⟩ | ⟨before, validator, after, infos, rejection, split, first⟩
  · have passes (audience : List Listener) : Passed world (dossier.candidate world)
        (chain.withListeners audience).validators infos := passed
    have own := validate_of_passed (passes listeners) options
    have unheard : silent = _ := validate_of_passed (passes []) options
    rw [own, unheard, List.map_append, afterPassing_withListeners, ← List.append_assoc,
      Dossier.request, requestOnce_append _ _ _ (unlooking_told listeners _ _ _),
      ← List.map_append]
    rfl
  · have parts (audience : List Listener) :
        (chain.withListeners audience).validators = before ++ validator :: after := split
    have own := validate_of_rejected (parts listeners) first options
    have unheard : silent = _ := validate_of_rejected (parts []) first options
    rw [own, unheard]
    exact congrArg _ (List.append_nil _).symm

variable {effects : List Effect}

theorem filterMap_notified?_of_quiet (quiet : ∀ effect ∈ effects, effect.Quiet) :
    effects.filterMap Effect.notified? = [] :=
  List.filterMap_eq_nil_iff.mpr fun effect member => (quiet effect member).unnotified

theorem count_listenersFailed_of_quiet (quiet : ∀ effect ∈ effects, effect.Quiet) :
    (effects.filterMap Effect.counted?).count .listenersFailed = 0 := by
  apply List.count_eq_zero.mpr
  intro counted
  obtain ⟨effect, member, own⟩ := List.mem_filterMap.mp counted
  exact (quiet effect member).uncounted own

theorem filter_warn_of_quiet (quiet : ∀ effect ∈ effects, effect.Quiet) :
    (effects.filterMap Effect.announced?).filter (·.level = .warn) = [] := by
  apply List.filter_eq_nil_iff.mpr
  intro event announced warns
  obtain ⟨effect, member, own⟩ := List.mem_filterMap.mp announced
  exact (quiet effect member).unwarned event own (of_decide_eq_true warns)

theorem filterMap_act?_of_telling (telling : ∀ effect ∈ effects, effect.Telling) :
    effects.filterMap Effect.act? = [] := by
  apply List.filterMap_eq_nil_iff.mpr
  intro effect member
  cases telling effect member <;> rfl

theorem count_executed_of_telling (telling : ∀ effect ∈ effects, effect.Telling) :
    (effects.filterMap Effect.counted?).count .validatorsExecuted = 0 := by
  apply List.count_eq_zero.mpr
  intro counted
  obtain ⟨effect, member, own⟩ := List.mem_filterMap.mp counted
  cases telling effect member <;> cases own

section Told

variable (listeners : List Listener) (infos : Infos) (received : ReceivedCommit)
  (options : RunOptions)

theorem told_of_invoked (invoked : options.invokeListeners = true) :
    told listeners (.ok infos) received options =
      (listeners.flatMap (Listener.notify infos received options.patchSet)).map (.inside .run) := by
  simp only [told, invoked, if_true]

theorem filterMap_notified?_told (invoked : options.invokeListeners = true) :
    (told listeners (.ok infos) received options).filterMap Effect.notified? =
      listeners.map fun listener => ⟨listener.name, infos, received, options.patchSet⟩ := by
  rw [told_of_invoked _ _ _ _ invoked, Effect.filterMap_notified?_inside, List.filterMap_flatMap,
    List.map_eq_flatMap]
  simp only [Listener.filterMap_notified?_notify]

theorem count_listenersFailed_told (invoked : options.invokeListeners = true) :
    ((told listeners (.ok infos) received options).filterMap Effect.counted?).count
      .listenersFailed =
      listeners.countP fun listener =>
        (listener.hear infos received options.patchSet).reply ≠ .succeeded := by
  rw [told_of_invoked _ _ _ _ invoked, Effect.filterMap_counted?_inside]
  have counted := counted_notifyListeners ⟨[], listeners⟩ infos received options.patchSet
  rw [notifyListeners] at counted
  rw [counted, List.count_replicate_self, failedCalls]

theorem filter_warn_told (invoked : options.invokeListeners = true) :
    ((told listeners (.ok infos) received options).filterMap Effect.announced?).filter
      (·.level = .warn) =
      (listeners.flatMap (Listener.failures infos received options.patchSet)).map
        Announcement.event := by
  rw [told_of_invoked _ _ _ _ invoked, List.map_flatMap, List.filterMap_flatMap, List.map_flatMap]
  simp only [Listener.announced_notify]
  apply List.filter_eq_self.mpr
  intro event member
  obtain ⟨listener, _, own⟩ := List.mem_flatMap.mp member
  obtain ⟨announcement, failed, rfl⟩ := List.mem_map.mp own
  exact decide_eq_true (Listener.level_of_mem_failures _ _ _ failed)

theorem told_of_uninvoked (verdict : Except Rejection Infos)
    (uninvoked : options.invokeListeners = false) :
    told listeners verdict received options = [] := by
  cases verdict <;> simp [told, uninvoked]

end Told

/-- Whoever listens, the verdict and all that is done to reach it are the same. Of a commit that is
accepted every listener is told once and in order, whatever those before it did; each call that fails
or panics counts and is warned of. If the commit is rejected, or nobody is to be told, no listener is
called. -/
theorem observers_never_influence_validation (world : Collaborators) (chain : Chain)
    (dossier : Dossier) (options : RunOptions) (counters : Counters)
    (listeners others : List Listener) :
    let received := dossier.toReceivedCommit
    let run := (chain.withListeners listeners).validate world dossier options
    let other := (chain.withListeners others).validate world dossier options
    run.verdict = other.verdict ∧
    run.executed = other.executed ∧
    run.effects.filterMap Effect.act? = other.effects.filterMap Effect.act? ∧
    (∃ validating told told', run.effects = validating ++ told ∧
      other.effects = validating ++ told' ∧ ∀ effect ∈ told ++ told', effect.Telling) ∧
    (∀ infos, run.verdict = .ok infos → options.invokeListeners = true →
      run.effects.filterMap Effect.notified? =
        listeners.map (fun listener => ⟨listener.name, infos, received, options.patchSet⟩) ∧
      (counters.after run.effects).listenersFailed =
        counters.listenersFailed + UInt64.ofNat (listeners.countP fun listener =>
          (listener.hear infos received options.patchSet).reply ≠ .succeeded) ∧
      (run.effects.filterMap Effect.announced?).filter (·.level = .warn) =
        (listeners.flatMap (Listener.failures infos received options.patchSet)).map
          Announcement.event) ∧
    ((∃ rejection, run.verdict = .error rejection) ∨ options.invokeListeners = false →
      run.effects.filterMap Effect.notified? = []) := by
  intro received run other
  have quiet := quiet_silent world chain dossier options
  have own : run = _ := validate_withListeners world chain dossier options listeners
  have also : other = _ := validate_withListeners world chain dossier options others
  generalize (chain.withListeners []).validate world dossier options = silent at quiet own also
  have telling (audience : List Listener) :=
    telling_told audience silent.verdict dossier.toReceivedCommit options
  refine ⟨?_, ?_, ?_, ?_, ?_, ?_⟩
  · rw [own, also]
  · rw [own, also, Run.executed, Run.executed]
    simp only [List.filterMap_append, List.count_append, count_executed_of_telling (telling _)]
  · rw [own, also, List.filterMap_append, List.filterMap_append,
      filterMap_act?_of_telling (telling _), filterMap_act?_of_telling (telling _)]
  · refine ⟨silent.effects, _, _, congrArg Run.effects own, congrArg Run.effects also, ?_⟩
    intro effect member
    rcases List.mem_append.mp member with first | second
    · exact telling listeners effect first
    · exact telling others effect second
  · intro infos accepted invoked
    rw [own] at accepted
    have verdict : silent.verdict = .ok infos := accepted
    rw [verdict] at own
    refine ⟨?_, ?_, ?_⟩
    · rw [own, List.filterMap_append, filterMap_notified?_of_quiet quiet,
        filterMap_notified?_told _ _ _ _ invoked]
      rfl
    · have counted := counters.value_after .listenersFailed run.effects
      rw [own, List.filterMap_append, List.count_append, count_listenersFailed_of_quiet quiet,
        count_listenersFailed_told _ _ _ _ invoked, Nat.zero_add] at counted
      rw [own]
      exact counted
    · rw [own, List.filterMap_append, List.filter_append, filter_warn_of_quiet quiet,
        filter_warn_told _ _ _ _ invoked]
      rfl
  · intro unheard
    have silence : told listeners silent.verdict received options = [] := by
      rcases unheard with ⟨rejection, rejected⟩ | uninvoked
      · rw [own] at rejected
        have verdict : silent.verdict = .error rejection := rejected
        rw [verdict]
        rfl
      · exact told_of_uninvoked _ _ _ _ uninvoked
    rw [own, List.filterMap_append, silence, filterMap_notified?_of_quiet quiet]
    rfl

end Chain

end CommitAdmission
