import CommitAdmission.Proofs.Scenarios
import CommitAdmission.Proofs.Turns

namespace CommitAdmission

variable {world : Collaborators} {chain : Chain} {dossier : Dossier}
  {before after : List Validator} {validator : Validator}

namespace Chain

theorem reaches_iff (split : chain.validators = before ++ validator :: after)
    (options : RunOptions) :
    before.length < (chain.validate world dossier options).executed ↔
      ∀ earlier ∈ before, earlier.Passes world (dossier.candidate world) := by
  rcases all_pass_or_first_rejection world (dossier.candidate world) chain.validators with
    ⟨infos, passed⟩ | ⟨passing, rejecting, rest, infos, rejection, other, first⟩
  · rw [executed_of_passed passed, split]
    constructor
    · intro _ earlier member
      apply passed.outcome_of_mem
      rw [split]
      exact List.mem_append_left _ member
    · intro _
      rw [List.length_append, List.length_cons]
      omega
  · rw [executed_of_rejected other first, Nat.lt_succ_iff]
    have called : before <+: chain.validators := ⟨_, split.symm⟩
    constructor
    · intro short earlier member
      have within : before <+: passing :=
        List.prefix_of_prefix_length_le called ⟨_, other.symm⟩ short
      exact first.passed.outcome_of_mem (within.mem member)
    · intro pass
      -- If the run were to end earlier, the validator that ends it would be one of those that pass.
      refine Nat.le_of_not_lt fun long => ?_
      have within : passing ++ [rejecting] <+: before := by
        apply List.prefix_of_prefix_length_le ⟨rest, ?_⟩ called
        · rw [List.length_append, List.length_singleton]
          omega
        · rw [other, List.append_assoc, List.singleton_append]
      obtain ⟨info, passes⟩ := pass rejecting (within.mem (by simp))
      cases first.rejected.symm.trans passes

theorem mem_executed_iff (validator : Validator) (options : RunOptions) :
    validator ∈ chain.validators.take (chain.validate world dossier options).executed ↔
      ∃ before after, chain.validators = before ++ validator :: after ∧
        ∀ earlier ∈ before, earlier.Passes world (dossier.candidate world) := by
  constructor
  · intro member
    obtain ⟨before, others, called⟩ := List.append_of_mem member
    have split : chain.validators = before ++ validator :: (others ++
        chain.validators.drop (chain.validate world dossier options).executed) := by
      rw [← List.cons_append, ← List.append_assoc, ← called, List.take_append_drop]
    have far : before.length < (chain.validate world dossier options).executed := by
      have short := List.length_take_le (chain.validate world dossier options).executed
        chain.validators
      rw [called, List.length_append, List.length_cons] at short
      omega
    exact ⟨before, _, split, (reaches_iff split options).mp far⟩
  · rintro ⟨before, after, split, reached⟩
    obtain ⟨more, count⟩ := Nat.exists_eq_add_of_lt ((reaches_iff split options).mpr reached)
    rw [count, split, Nat.add_assoc, List.take_length_add_append, List.take_succ_cons]
    exact List.mem_append_right _ List.mem_cons_self

theorem looked_iff (options : RunOptions) :
    .acted .countedFiles ∈ (chain.validate world dossier options).effects ↔
      ∃ before validator after, chain.validators = before ++ validator :: after ∧
        (∀ earlier ∈ before, earlier.Passes world (dossier.candidate world)) ∧
        .countedFiles ∈ (validator.judge world (dossier.candidate world)).acts := by
  have shown : .acted .countedFiles ∈ (chain.validate world dossier options).effects ↔
      .countedFiles ∈ (chain.validate world dossier options).effects.filterMap Effect.act? := by
    rw [List.mem_filterMap]
    constructor
    · exact fun member => ⟨_, member, rfl⟩
    · rintro ⟨effect, member, own⟩
      cases effect with
      | acted act =>
        cases own
        exact member
      | _ => cases own
  have bare (act : Act) :
      (Act.inside .run ∘ Act.inside .validator) act = .countedFiles ↔ act = .countedFiles := by
    cases act <;> simp [Act.inside]
  rw [shown, filterMap_act?_validate, actsOf, List.mem_map]
  simp only [bare, exists_eq_right, List.mem_flatMap, mem_executed_iff]
  constructor
  · rintro ⟨validator, ⟨before, after, split, reached⟩, looks⟩
    exact ⟨before, validator, after, split, reached, looks⟩
  · rintro ⟨before, validator, after, split, reached, looks⟩
    exact ⟨validator, ⟨before, after, split, reached⟩, looks⟩

variable {β : Type} (view : Act → Option β)

/-- What some validators do that a view of acts shows, where spans do not matter to it. -/
theorem filterMap_view (unchanged : ∀ span act, view (act.inside span) = view act)
    (world : Collaborators) (chain : Chain) (dossier : Dossier) (options : RunOptions) :
    let run := chain.validate world dossier options
    run.effects.filterMap (fun effect => effect.act?.bind view) =
      (chain.validators.take run.executed).flatMap fun called =>
        (called.judge world (dossier.candidate world)).acts.filterMap view := by
  intro run
  rw [← filterMap_actsOf view unchanged, ← filterMap_act?_validate, List.filterMap_filterMap]

theorem flatMap_view_of_blind {view : Act → Option β} {candidate : Candidate}
    {called : List Validator}
    (blind : ∀ other ∈ called, ∀ act ∈ (other.judge world candidate).acts, view act = none) :
    (called.flatMap fun other => (other.judge world candidate).acts.filterMap view) = [] := by
  rw [List.flatMap_eq_nil_iff]
  intro other member
  exact List.filterMap_eq_nil_iff.mpr (blind other member)

/-- A view that is blind to all validators but one shows what that one does, if the run reaches it. -/
theorem filterMap_view_of_reached (unchanged : ∀ span act, view (act.inside span) = view act)
    (split : chain.validators = before ++ validator :: after)
    (blind : ∀ other ∈ before ++ after,
      ∀ act ∈ (other.judge world (dossier.candidate world)).acts, view act = none)
    (reached : ∀ earlier ∈ before, earlier.Passes world (dossier.candidate world))
    (options : RunOptions) :
    (chain.validate world dossier options).effects.filterMap (fun effect => effect.act?.bind view) =
      (validator.judge world (dossier.candidate world)).acts.filterMap view := by
  obtain ⟨blindBefore, blindAfter⟩ := List.forall_mem_append.mp blind
  have far := (reaches_iff split options).mpr reached
  obtain ⟨more, count⟩ := Nat.exists_eq_add_of_lt far
  rw [filterMap_view view unchanged, split, count, Nat.add_assoc, List.take_length_add_append,
    List.take_succ_cons, List.flatMap_append, List.flatMap_cons, flatMap_view_of_blind blindBefore,
    flatMap_view_of_blind fun other member => blindAfter other (List.mem_of_mem_take member),
    List.nil_append, List.append_nil]

theorem filterMap_view_of_unreached (unchanged : ∀ span act, view (act.inside span) = view act)
    (split : chain.validators = before ++ validator :: after)
    (blind : ∀ other ∈ before ++ after,
      ∀ act ∈ (other.judge world (dossier.candidate world)).acts, view act = none)
    (unreached : ¬∀ earlier ∈ before, earlier.Passes world (dossier.candidate world))
    (options : RunOptions) :
    (chain.validate world dossier options).effects.filterMap (fun effect => effect.act?.bind view) =
      [] := by
  obtain ⟨blindBefore, _⟩ := List.forall_mem_append.mp blind
  have short := Nat.le_of_not_lt fun far => unreached ((reaches_iff split options).mp far)
  rw [filterMap_view view unchanged, split, List.take_append_of_le_length short]
  exact flatMap_view_of_blind fun other member => blindBefore other (List.mem_of_mem_take member)

end Chain

end CommitAdmission
