import CommitAdmission.Proofs.Observers
import Mathlib.Data.List.Basic

/-! The trace of a run. The run announces its start, each validator that it executes, its verdict, and
then the listeners that fail; the events of a validator stand before the one that says that it has
finished. What listeners say for themselves is left out. -/

namespace CommitAdmission

/-- An event of the trace of a run, with the span in which it is said: the run speaks for itself, and
validators during their turn. -/
structure TraceEntry where
  speaker : Span
  event : TraceEvent
  deriving DecidableEq, Repr

namespace TraceEntry

def said (announcement : Announcement) : TraceEntry := ⟨.run, announcement.event⟩

def own (event : TraceEvent) : TraceEntry := ⟨.validator, (event.inside .validator).inside .run⟩

/-- The run speaks in its own span only, and a validator in the span of its turn. -/
structure Nested (entry : TraceEntry) : Prop where
  outside : entry.speaker = .run → entry.event.spans = [.run]
  within : entry.speaker = .validator → [.run, .validator] <+: entry.event.spans

theorem nested_said (announcement : Announcement) : (said announcement).Nested where
  outside _ := announcement.spans_event
  within other := by cases other

theorem nested_own (event : TraceEvent) : (own event).Nested where
  outside other := by cases other
  within _ := ⟨event.spans, rfl⟩

end TraceEntry

namespace Effect

def entry? : Effect → Option TraceEntry
  | acted (.emitted event) => some ⟨.validator, event⟩
  | emitted event => some ⟨.run, event⟩
  | _ => none

theorem map_event_filterMap_entry? (effects : List Effect) :
    (effects.filterMap entry?).map TraceEntry.event = effects.filterMap emitted? := by
  rw [List.map_filterMap]
  congr
  funext effect
  cases effect with
  | acted act => cases act <;> rfl
  | _ => rfl

theorem filterMap_entry?_acted (acts : List Act) :
    (acts.map acted).filterMap entry? =
      (acts.filterMap Act.emitted?).map fun event => ⟨.validator, event⟩ := by
  rw [List.filterMap_map, List.map_filterMap]
  congr
  funext act
  cases act <;> rfl

theorem filterMap_entry?_inside (span : Span) (effects : List Effect) :
    (effects.map (inside span)).filterMap entry? =
      (effects.filterMap entry?).map fun entry => ⟨entry.speaker, entry.event.inside span⟩ := by
  rw [List.filterMap_map, List.map_filterMap]
  congr
  funext effect
  cases effect with
  | acted act => cases act <;> rfl
  | _ => rfl

end Effect

def Check.emitted {α : Type} (check : Check α) : List TraceEvent :=
  check.acts.filterMap Act.emitted?

variable {world : Collaborators} {candidate : Candidate}

namespace Chain

/-- The trace of the turn of a validator: what it says, and then that it has finished. -/
def turnEntries (world : Collaborators) (candidate : Candidate) (passed : Bool)
    (validator : Validator) : List TraceEntry :=
  (validator.judge world candidate).emitted.map .own ++
    [.said (.finished validator.name passed)]

theorem entries_turn (passed : Bool) (validator : Validator) :
    ((turn world candidate passed validator).map (Effect.inside .run)).filterMap Effect.entry? =
      turnEntries world candidate passed validator := by
  have voiced : (validator.judge world candidate).acts.map
      (fun act => Effect.acted (act.inside .validator)) =
      ((validator.judge world candidate).acts.map Effect.acted).map (Effect.inside .validator) := by
    rw [List.map_map]
    rfl
  rw [Effect.filterMap_entry?_inside, turn, List.filterMap_append, List.map_append, voiced,
    Effect.filterMap_entry?_inside, Effect.filterMap_entry?_acted, List.map_map, List.map_map]
  rfl

def failureEntries (chain : Chain) (infos : Infos) (received : ReceivedCommit)
    (patchSet : Option PatchSetId) : List TraceEntry :=
  (chain.listeners.flatMap (Listener.failures infos received patchSet)).map .said

theorem entries_notify (infos : Infos) (received : ReceivedCommit) (patchSet : Option PatchSetId)
    (listener : Listener) :
    ((listener.notify infos received patchSet).map (Effect.inside .run)).filterMap Effect.entry? =
      (listener.failures infos received patchSet).map .said := by
  have outer (event : TraceEvent) : Effect.entry? (.remarked event) = none := rfl
  rw [listener.filterMap_inside_notify _ _ _ outer, List.map_eq_flatMap]
  rfl

theorem entries_notifyListeners (chain : Chain) (infos : Infos) (received : ReceivedCommit)
    (patchSet : Option PatchSetId) :
    ((chain.notifyListeners infos received patchSet).map (Effect.inside .run)).filterMap
      Effect.entry? = chain.failureEntries infos received patchSet := by
  rw [notifyListeners, List.map_flatMap, List.filterMap_flatMap, failureEntries,
    List.map_flatMap]
  simp only [entries_notify]

theorem entries_afterPassing (chain : Chain) (options : RunOptions) (infos : Infos)
    (received : ReceivedCommit) :
    ((chain.afterPassing options infos received).map (Effect.inside .run)).filterMap
      Effect.entry? =
      .said (.passed received.commit.id.name) ::
        if options.invokeListeners then
          chain.failureEntries infos received options.patchSet
        else [] := by
  cases invoked : options.invokeListeners with
  | true =>
    rw [afterPassing, invoked, if_pos rfl, if_pos rfl, ← entries_notifyListeners]
    rfl
  | false =>
    rw [afterPassing, invoked]
    rfl

theorem entries_of_passed {chain : Chain} {dossier : Dossier} {infos : List Info}
    (passed : Passed world (dossier.candidate world) chain.validators infos)
    (options : RunOptions) :
    (chain.validate world dossier options).effects.filterMap Effect.entry? =
      .said (.started dossier.commit.id.name chain.validators.length) ::
        (chain.validators.flatMap (turnEntries world (dossier.candidate world) true) ++
          .said (.passed dossier.commit.id.name) ::
            if options.invokeListeners then
              chain.failureEntries ⟨chain.names.zip infos⟩ dossier.toReceivedCommit
                options.patchSet
            else []) := by
  have start : ((chain.opening dossier.toReceivedCommit).map (Effect.inside .run)).filterMap
      Effect.entry? =
      [.said (.started dossier.commit.id.name chain.validators.length)] := rfl
  rw [validate_of_passed passed, Dossier.filterMap_request _ fun _ => rfl]
  simp only [List.map_append, List.map_flatMap, List.filterMap_append, List.filterMap_flatMap,
    start, entries_turn, entries_afterPassing, List.append_assoc, List.singleton_append]

theorem entries_of_rejected {chain : Chain} {dossier : Dossier} {before : List Validator}
    {infos : List Info} {validator : Validator} {after : List Validator} {rejection : Rejection}
    (split : chain.validators = before ++ validator :: after)
    (first : FirstRejection world (dossier.candidate world) before infos validator rejection)
    (options : RunOptions) :
    (chain.validate world dossier options).effects.filterMap Effect.entry? =
      .said (.started dossier.commit.id.name chain.validators.length) ::
        (before.flatMap (turnEntries world (dossier.candidate world) true) ++
          turnEntries world (dossier.candidate world) false validator ++
          [.said (.rejected dossier.commit.id.name validator.name rejection.reason)]) := by
  have start : ((chain.opening dossier.toReceivedCommit).map (Effect.inside .run)).filterMap
      Effect.entry? =
      [.said (.started dossier.commit.id.name chain.validators.length)] := rfl
  have finish : ((afterRejecting dossier.toReceivedCommit validator rejection.reason).map
      (Effect.inside .run)).filterMap Effect.entry? =
      [.said (.rejected dossier.commit.id.name validator.name rejection.reason)] := rfl
  rw [validate_of_rejected split first, Dossier.filterMap_request _ fun _ => rfl]
  simp only [List.map_append, List.map_flatMap, List.filterMap_append, List.filterMap_flatMap,
    start, finish, entries_turn, List.singleton_append]

theorem nested_turnEntries (passed : Bool) (validator : Validator) :
    ∀ entry ∈ turnEntries world candidate passed validator, entry.Nested := by
  intro entry member
  rcases List.mem_append.mp member with own | record
  · obtain ⟨event, _, rfl⟩ := List.mem_map.mp own
    exact TraceEntry.nested_own event
  · rw [List.mem_singleton.mp record]
    exact TraceEntry.nested_said _

theorem nested_turns (passed : Bool) (validators : List Validator) :
    ∀ entry ∈ validators.flatMap (turnEntries world candidate passed), entry.Nested := by
  intro entry member
  obtain ⟨validator, _, own⟩ := List.mem_flatMap.mp member
  exact nested_turnEntries passed validator entry own

theorem nested_failureEntries (chain : Chain) (infos : Infos) (received : ReceivedCommit)
    (patchSet : Option PatchSetId) :
    ∀ entry ∈ chain.failureEntries infos received patchSet, entry.Nested := by
  intro entry member
  obtain ⟨announcement, _, rfl⟩ := List.mem_map.mp member
  exact TraceEntry.nested_said _

theorem nested_entries (world : Collaborators) (chain : Chain) (dossier : Dossier)
    (options : RunOptions) :
    ∀ entry ∈ (chain.validate world dossier options).effects.filterMap Effect.entry?,
      entry.Nested := by
  rcases all_pass_or_first_rejection world (dossier.candidate world) chain.validators with
    ⟨infos, passed⟩ | ⟨before, validator, after, infos, rejection, split, first⟩
  · rw [entries_of_passed passed]
    simp only [List.forall_mem_cons, List.forall_mem_append]
    refine ⟨TraceEntry.nested_said _, nested_turns true _,
      TraceEntry.nested_said _, ?_⟩
    split
    · exact nested_failureEntries chain _ _ _
    · exact List.forall_mem_nil _
  · rw [entries_of_rejected split first]
    simp only [List.forall_mem_cons, List.forall_mem_append]
    exact ⟨TraceEntry.nested_said _, ⟨nested_turns true _, nested_turnEntries false _⟩,
      TraceEntry.nested_said _, List.forall_mem_nil _⟩

end Chain

/-- The trace of a run tells its story, whatever the chain and whoever listens: its start, the turn of
each validator that it executes, of which all but a rejecting last one pass, and its verdict, with the
reason that is returned; then, if listeners are told of an accepted commit, those that fail, in their
order. What the run announces stands in its own span only; what a validator says stands in the span of
its turn, and before the announcement that it has finished. -/
theorem trace_agrees_with_verdict (world : Collaborators) (chain : Chain) (dossier : Dossier)
    (options : RunOptions) :
    let candidate := dossier.candidate world
    let commit := dossier.commit.id.name
    let run := chain.validate world dossier options
    let trace := run.effects.filterMap Effect.entry?
    let executed := chain.validators.take run.executed
    trace.map TraceEntry.event = run.effects.filterMap Effect.emitted? ∧
    run.effects.filterMap Effect.act? = Chain.actsOf world candidate executed ∧
    (∀ infos, run.verdict = .ok infos →
      executed = chain.validators ∧ (∃ own, Passed world candidate executed own) ∧
      trace =
        .said (.started commit chain.validators.length) ::
          (executed.flatMap (Chain.turnEntries world candidate true) ++
            .said (.passed commit) ::
              if options.invokeListeners then
                (chain.listeners.flatMap
                  (Listener.failures infos dossier.toReceivedCommit options.patchSet)).map .said
              else [])) ∧
    (∀ rejection, run.verdict = .error rejection →
      ∃ before last infos own, executed = before ++ [last] ∧
        FirstRejection world candidate before infos last own ∧ own.reason = rejection.reason ∧
        trace =
          .said (.started commit chain.validators.length) ::
            (before.flatMap (Chain.turnEntries world candidate true) ++
              Chain.turnEntries world candidate false last ++
              [.said (.rejected commit last.name rejection.reason)])) ∧
    ∀ entry ∈ trace,
      (entry.speaker = .run → entry.event.spans.map Span.name = ["pushgate.validation"]) ∧
      (entry.speaker = .validator →
        ["pushgate.validation", "pushgate.validator"] <+: entry.event.spans.map Span.name) := by
  intro candidate commit run trace executed
  refine ⟨Effect.map_event_filterMap_entry? _,
    Chain.filterMap_act?_validate world chain dossier options, ?_, ?_, ?_⟩
  · intro infos accepted
    obtain ⟨own, passed, rfl⟩ :=
      (Chain.verdict_eq_ok_iff world chain dossier options infos).mp accepted
    have reached : run.executed = chain.validators.length := Chain.executed_of_passed passed options
    have whole : executed = chain.validators := by
      simp only [executed, reached, List.take_length]
    rw [whole]
    exact ⟨rfl, ⟨own, passed⟩, Chain.entries_of_passed passed options⟩
  · intro rejection rejected
    obtain ⟨before, last, after, infos, own, split, first, rfl⟩ :=
      Chain.exists_first_rejection rejected
    exact ⟨before, last, infos, own, Chain.take_executed_of_rejected split first options, first,
      rfl, Chain.entries_of_rejected split first options⟩
  · intro entry member
    have nested := Chain.nested_entries world chain dossier options entry member
    exact ⟨fun run => congrArg (List.map Span.name) (nested.outside run),
      fun turn => (nested.within turn).map Span.name⟩

end CommitAdmission
