import CommitAdmission.Proofs.Decisions

namespace CommitAdmission

open Text

namespace ChangeId

theorem isWellFormed_iff (id : List Char) : isWellFormed id = true ↔ IsChangeId id := by
  unfold isWellFormed IsChangeId
  split
  · rename_i digits
    rw [Bool.and_eq_true, beq_iff_eq, List.all_eq_true]
    constructor
    · intro given
      obtain ⟨length, hex⟩ := given
      exact ⟨digits, rfl, length, hex⟩
    · intro given
      obtain ⟨others, same, length, hex⟩ := given
      cases same
      exact ⟨length, hex⟩
  · rename_i other
    constructor
    · intro impossible
      cases impossible
    · intro given
      obtain ⟨digits, same, _⟩ := given
      exact absurd same (other digits)

theorem isPlaceholder_iff {id : List Char} (wellFormed : IsChangeId id) :
    isPlaceholder id = true ↔ id = zeroChangeId := by
  obtain ⟨digits, rfl, length, _⟩ := wellFormed
  constructor
  · intro placeholder
    have zeros : ∀ digit ∈ digits, digit = '0' := by
      unfold isPlaceholder at placeholder
      split at placeholder
      · rename_i rest same
        cases same
        intro digit member
        rcases List.mem_cons.mp member with first | later
        · exact first
        · exact eq_of_beq (List.all_eq_true.mp placeholder digit later)
      · cases placeholder
    rw [zeroChangeId, List.eq_replicate_iff.mpr ⟨length, zeros⟩]
  · intro same
    rw [same]
    decide

theorem markerLine_prefix_iff (c : Char) (rest : List Char) :
    "\nChange-Id:".toList <+: c :: rest ↔ c = '\n' ∧ marker <+: rest := by
  have line : "\nChange-Id:".toList = '\n' :: marker := rfl
  rw [line, List.cons_prefix_cons, eq_comm]

theorem hasMarkerLine_iff (message : List Char) :
    hasMarkerLine message = true ↔ "\nChange-Id:".toList <:+: message := by
  induction message with
  | nil =>
    constructor
    · intro impossible
      cases impossible
    · intro inside
      cases List.infix_nil.mp inside
  | cons c rest ih =>
    rw [hasMarkerLine, Bool.or_eq_true, Bool.and_eq_true, beq_iff_eq, startsWith_iff,
      List.infix_cons_iff, markerLine_prefix_iff, ih]

theorem inSubject_iff (received : ReceivedCommit) :
    inSubject received.commit.subject.toList = true ↔ HasChangeIdAsSubject received := by
  unfold inSubject HasChangeIdAsSubject
  split
  · rename_i rest found
    rw [isValid, isWellFormed_iff]
    constructor
    · intro wellFormed
      exact ⟨rest, after?_eq_some_iff.mp found, wellFormed⟩
    · intro given
      obtain ⟨id, whole, wellFormed⟩ := given
      have same : some rest = some id := found.symm.trans (after?_eq_some_iff.mpr whole)
      rw [Option.some.inj same]
      exact wellFormed
  · rename_i absent
    constructor
    · intro impossible
      cases impossible
    · intro given
      obtain ⟨id, whole, _⟩ := given
      cases absent.symm.trans (after?_eq_some_iff.mpr whole)

theorem isExpected_iff (ref : String) :
    isExpected ref = true ↔
      "refs/for/".toList <+: ref.toList ∨ RefName.newPatchSetChange? ref ≠ none := by
  rw [isExpected, Bool.or_eq_true, isMagic_iff, Option.isSome_iff_ne_none]

end ChangeId

theorem ChangeIdPolicy.reason_rejectWithHint (policy : ChangeIdPolicy) (world : Collaborators)
    (reason : String) :
    ∃ rejection, (policy.rejectWithHint world reason).outcome = .error rejection ∧
      rejection.reason = reason := by
  unfold rejectWithHint
  split
  · exact ⟨_, rfl, rfl⟩
  · exact ⟨_, rfl, rfl⟩

variable {request : Request} {project : ProjectState} {received : ReceivedCommit}

theorem ChangeIdInOrder.cases_of_expected (expected : ChangeId.isExpected received.ref = true)
    (inOrder : ChangeIdInOrder request project received) :
    (received.commit.footerValues "Change-Id" = [] ∧ ¬ HasChangeIdAsSubject received ∧
      ¬ HasChangeIdLine received ∧ project.requireChangeId = false) ∨
    ∃ id, received.commit.footerValues "Change-Id" = [id] ∧ IsChangeId (trim id.toList) ∧
      trim id.toList ≠ zeroChangeId ∧
      ∀ change, request.change = some change → change.key.toList = trim id.toList := by
  cases inOrder with
  | notReviewed direct unaddressed =>
    rcases (ChangeId.isExpected_iff _).mp expected with review | patchSet
    · exact absurd review direct
    · exact absurd unaddressed patchSet
  | notRequired none subject line optional => exact .inl ⟨none, subject, line, optional⟩
  | single one wellFormed proper matching => exact .inr ⟨_, one, wellFormed, proper, matching⟩

/-- Without a Change-Id in a footer, the commit must need none and have none elsewhere. -/
theorem governs_withoutChangeId (policy : ChangeIdPolicy) (world : Collaborators)
    (same : policy.project = project) (expected : ChangeId.isExpected received.ref = true)
    (absent : received.commit.footerValues "Change-Id" = []) :
    (changeIdRule request project received).Governs
      (if ChangeId.inSubject received.commit.subject.toList = true then
        Check.reject (.policy ChangeId.missingSubject)
      else if ChangeId.hasMarkerLine received.commit.message.toList = true then
        Check.reject ChangeId.aboveFooterRejection
      else if policy.project.requireChangeId = true then
        policy.rejectWithHint world ChangeId.missing
      else pure () : Check Unit).outcome := by
  have conditions (inOrder : ChangeIdInOrder request project received) :
      ¬ HasChangeIdAsSubject received ∧ ¬ HasChangeIdLine received ∧
        project.requireChangeId = false := by
    rcases inOrder.cases_of_expected expected with ⟨_, rest⟩ | ⟨id, one, _⟩
    · exact rest
    · cases absent.symm.trans one
  by_cases subject : HasChangeIdAsSubject received
  · rw [if_pos ((ChangeId.inSubject_iff _).mpr subject), Check.outcome_reject]
    exact .rejects (fun inOrder => (conditions inOrder).1 subject) (.noSubject absent subject)
  · rw [if_neg (fun isId => subject ((ChangeId.inSubject_iff _).mp isId))]
    by_cases line : HasChangeIdLine received
    · rw [if_pos ((ChangeId.hasMarkerLine_iff _).mpr line), Check.outcome_reject]
      exact .rejects (fun inOrder => (conditions inOrder).2.1 line) (.misplaced absent subject line)
    · rw [if_neg (fun marked => line ((ChangeId.hasMarkerLine_iff _).mp marked)), same]
      cases required : project.requireChangeId with
      | false => exact .passes (.notRequired absent subject line required)
      | true =>
        obtain ⟨rejection, outcome, reason⟩ := policy.reason_rejectWithHint world ChangeId.missing
        rw [if_pos rfl, outcome]
        refine .rejects (fun inOrder => ?_) (reason ▸ .missing absent subject line required)
        cases required.symm.trans (conditions inOrder).2.2

/-- A single Change-Id must be well formed, stand for a change, and be that of the target. -/
theorem governs_singleChangeId (policy : ChangeIdPolicy) (world : Collaborators)
    (same : policy.change = request.change) (expected : ChangeId.isExpected received.ref = true)
    {id : String} (one : received.commit.footerValues "Change-Id" = [id]) :
    (changeIdRule request project received).Governs
      (if (!ChangeId.isValid id.toList || ChangeId.isPlaceholder (trim id.toList)) = true then
        policy.rejectWithHint world ChangeId.malformed
      else if policy.change.any (fun change => change.key.toList != trim id.toList) = true then
        Check.reject (.policy ChangeId.mismatch)
      else pure () : Check Unit).outcome := by
  have conditions (inOrder : ChangeIdInOrder request project received) :
      IsChangeId (trim id.toList) ∧ trim id.toList ≠ zeroChangeId ∧
        ∀ change, request.change = some change → change.key.toList = trim id.toList := by
    rcases inOrder.cases_of_expected expected with ⟨none, _⟩ | ⟨other, also, rest⟩
    · cases one.symm.trans none
    · cases one.symm.trans also
      exact rest
  by_cases proper : IsChangeId (trim id.toList) ∧ trim id.toList ≠ zeroChangeId
  · have accepted : (!ChangeId.isValid id.toList || ChangeId.isPlaceholder (trim id.toList)) =
        false := by
      rw [Bool.or_eq_false_iff, Bool.not_eq_false', ChangeId.isValid, ChangeId.isWellFormed_iff,
        ← Bool.not_eq_true, ChangeId.isPlaceholder_iff proper.1]
      exact proper
    rw [accepted, if_neg Bool.false_ne_true, same]
    cases target : request.change with
    | none =>
      refine .passes (.single one proper.1 proper.2 fun change present => ?_)
      cases target.symm.trans present
    | some change =>
      by_cases matching : change.key.toList = trim id.toList
      · rw [if_neg (by simp [matching])]
        refine .passes (.single one proper.1 proper.2 fun other present => ?_)
        cases target.symm.trans present
        exact matching
      · rw [if_pos (by simp [matching])]
        exact .rejects (fun inOrder => matching ((conditions inOrder).2.2 change target))
          (.mismatch one proper.1 proper.2 target matching)
  · have refused : (!ChangeId.isValid id.toList || ChangeId.isPlaceholder (trim id.toList)) =
        true := by
      rw [Bool.or_eq_true, Bool.not_eq_true', ← Bool.not_eq_true, ChangeId.isValid,
        ChangeId.isWellFormed_iff]
      by_cases wellFormed : IsChangeId (trim id.toList)
      · right
        rw [ChangeId.isPlaceholder_iff wellFormed]
        exact Classical.byContradiction fun other => proper ⟨wellFormed, other⟩
      · exact .inl wellFormed
    obtain ⟨rejection, outcome, reason⟩ := policy.reason_rejectWithHint world ChangeId.malformed
    rw [if_pos refused, outcome]
    refine .rejects (fun inOrder => ?_) (reason ▸ .malformed one proper)
    exact proper ⟨(conditions inOrder).1, (conditions inOrder).2.1⟩

theorem governs_check (policy : ChangeIdPolicy) (world : Collaborators)
    (sameProject : policy.project = project) (sameChange : policy.change = request.change) :
    (changeIdRule request project received).Governs
      (policy.check world (received.dossier.candidate world)).outcome := by
  simp only [ChangeIdPolicy.check]
  split
  · rename_i unexpected
    have direct : ¬ ChangeId.isExpected received.ref = true := by
      rw [Bool.not_eq_true', ← Bool.not_eq_true] at unexpected
      exact unexpected
    rw [ChangeId.isExpected_iff, not_or] at direct
    exact .passes (.notReviewed direct.1 (Decidable.not_not.mp direct.2))
  · rename_i wanted
    have expected : ChangeId.isExpected received.ref = true := by
      rw [Bool.not_eq_true', Bool.not_eq_false] at wanted
      exact wanted
    split
    · rename_i absent
      exact governs_withoutChangeId policy world sameProject expected absent
    · rename_i id one
      exact governs_singleChangeId policy world sameChange expected one
    · rename_i ids notNone notOne
      have several : 2 ≤ (received.commit.footerValues "Change-Id").length := by
        cases found : received.commit.footerValues "Change-Id" with
        | nil => exact absurd found notNone
        | cons first rest =>
          cases rest with
          | nil => exact absurd found (notOne first)
          | cons second others => exact Nat.le_add_left 2 others.length
      refine .rejects (fun inOrder => ?_) (.multiple several)
      rcases inOrder.cases_of_expected expected with ⟨none, _⟩ | ⟨id, one, _⟩
      · exact notNone none
      · exact notOne id one

theorem governs_changeId (world : Collaborators) (factory : Factory) (request : Request)
    (project : ProjectState) (received : ReceivedCommit) :
    (changeIdRule request project received).Governs
      ((factory.changeId request project).outcome world (received.dossier.candidate world)) := by
  apply Rule.Governs.ofCheck
  exact governs_check _ world rfl rfl

end CommitAdmission
