import CommitAdmission.Proofs.FooterForms
import CommitAdmission.Proofs.ReviewRefs
import Mathlib.Data.List.Forall2

namespace CommitAdmission

open Text

def RejectedFor (outcome : Except Rejection Info) (reason : String) : Prop :=
  ∃ rejection, outcome = .error rejection ∧ rejection.reason = reason

/-- The first fault that is present gives the reason. Where none is, the commit is accepted with nothing
to report. -/
def DecidedBy (outcome : Except Rejection Info) : List (String × Prop) → Prop
  | [] => outcome = .ok .plain
  | (reason, fault) :: others =>
    (RejectedFor outcome reason ↔ fault) ∧ (¬ fault → DecidedBy outcome others)

variable {outcome : Except Rejection Info}

theorem RejectedFor.unique {first second : String} (rejected : RejectedFor outcome first)
    (again : RejectedFor outcome second) : first = second := by
  obtain ⟨rejection, rejects, rfl⟩ := rejected
  obtain ⟨other, alsoRejects, rfl⟩ := again
  rw [Except.error.inj (rejects.symm.trans alsoRejects)]

theorem not_rejectedFor_of_ok {info : Info} (passes : outcome = .ok info) (reason : String) :
    ¬ RejectedFor outcome reason := by
  rintro ⟨rejection, rejects, _⟩
  cases passes.symm.trans rejects

namespace DecidedBy

variable {faults : List (String × Prop)} {reason : String} {fault : Prop}

theorem accepted_or_rejected (decided : DecidedBy outcome faults) :
    outcome = .ok .plain ∨ ∃ reason ∈ faults.map Prod.fst, RejectedFor outcome reason := by
  induction faults with
  | nil => exact .inl decided
  | cons first others ih =>
    obtain ⟨decides, later⟩ := decided
    by_cases present : first.2
    · exact .inr ⟨first.1, List.mem_cons_self, decides.mpr present⟩
    · rcases ih (later present) with accepted | ⟨reason, listed, rejected⟩
      · exact .inl accepted
      · exact .inr ⟨reason, List.mem_cons_of_mem _ listed, rejected⟩

theorem rejected_within {reasons : List String} (decided : DecidedBy outcome faults)
    (within : faults.map Prod.fst ⊆ reasons) :
    outcome = .ok .plain ∨ ∃ reason ∈ reasons, RejectedFor outcome reason := by
  rcases decided.accepted_or_rejected with accepted | ⟨reason, listed, rejected⟩
  · exact .inl accepted
  · exact .inr ⟨reason, within listed, rejected⟩

theorem not_rejectedFor (decided : DecidedBy outcome faults)
    (unlisted : reason ∉ faults.map Prod.fst) : ¬ RejectedFor outcome reason := by
  intro rejected
  rcases decided.accepted_or_rejected with accepted | ⟨other, listed, rejectedForOther⟩
  · exact not_rejectedFor_of_ok accepted reason rejected
  · exact unlisted (rejected.unique rejectedForOther ▸ listed)

theorem cons (unlisted : reason ∉ faults.map Prod.fst)
    (present : fault → RejectedFor outcome reason) (absent : ¬ fault → DecidedBy outcome faults) :
    DecidedBy outcome ((reason, fault) :: faults) := by
  refine ⟨⟨fun rejected => ?_, present⟩, absent⟩
  by_contra missing
  exact (absent missing).not_rejectedFor unlisted rejected

end DecidedBy

namespace ChangeId

theorem hasMarkerLine_iff_line (message : List Char) :
    hasMarkerLine message = true ↔
      ∃ line ∈ (splitOn '\n' message).tail, "Change-Id:".toList <+: line := by
  induction message with
  | nil => simp [hasMarkerLine, splitOn, splitWhere]
  | cons c rest ih =>
    obtain ⟨first, others, parts⟩ := List.exists_cons_of_ne_nil (splitOn_ne_nil '\n' rest)
    rw [hasMarkerLine, Bool.or_eq_true, Bool.and_eq_true, beq_iff_eq, startsWith_iff, ih, parts]
    by_cases newline : c = '\n'
    · have lines : splitOn '\n' (c :: rest) = [] :: first :: others := by
        rw [newline, ← parts]
        exact splitOn_append_separator '\n' [] rest
      have begins : marker <+: rest ↔ "Change-Id:".toList <+: first :=
        prefix_iff_of_splitOn (by decide) parts
      rw [lines, begins, newline]
      simp only [true_and, List.tail_cons, List.mem_cons, exists_eq_or_imp]
    · have lines : splitOn '\n' (c :: rest) = (c :: first) :: others := by
        have unseparated : (c == '\n') = false := beq_eq_false_iff_ne.mpr newline
        rw [splitOn] at parts
        rw [splitOn, splitWhere, unseparated, parts]
        rfl
      rw [lines]
      simp only [newline, false_and, false_or, List.tail_cons]

inductive Listed (id : String) : List Char → Prop
  | valid : IsChangeId id.toList → Listed id ("* ".toList ++ id.toList ++ " [VALID]".toList)
  | invalid : ¬ IsChangeId id.toList → Listed id ("* ".toList ++ id.toList ++ " [INVALID]".toList)

theorem listed_entry {id : String} (trimmed : trim id.toList = id.toList) : Listed id (listed id) := by
  unfold listed isValid
  rw [trimmed]
  split
  · rename_i wellFormed
    exact .valid ((isWellFormed_iff _).mp wellFormed)
  · rename_i malformed
    exact .invalid fun isId => malformed ((isWellFormed_iff _).mpr isId)

theorem Listed.newline_notMem {id : String} {entry : List Char} (plain : '\n' ∉ id.toList)
    (listed : Listed id entry) : '\n' ∉ entry := by
  cases listed <;> simp [plain]

def multipleText (entries : List (List Char)) : String :=
  multiple ++ "\n\nHint: the following Change-Ids were found:\n" ++
    String.ofList (joinWith ['\n'] entries) ++ "\n"

theorem multipleRejection_eq (ids : List String) :
    multipleRejection ids = ⟨multiple, [⟨multipleText (ids.map listed), .error⟩], .policy⟩ := rfl

theorem lines_multipleText {entries : List (List Char)} (present : entries ≠ [])
    (plain : ∀ entry ∈ entries, '\n' ∉ entry) :
    splitOn '\n' (multipleText entries).toList =
      [multiple.toList, [], "Hint: the following Change-Ids were found:".toList] ++ entries ++
        [[]] := by
  have text : (multipleText entries).toList =
      multiple.toList ++ '\n' :: ([] ++ '\n' :: ("Hint: the following Change-Ids were found:".toList ++
        '\n' :: (joinWith ['\n'] entries ++ '\n' :: []))) := by
    simp [multipleText]
  have title : '\n' ∉ multiple.toList := by decide
  have hint : '\n' ∉ "Hint: the following Change-Ids were found:".toList := by decide
  rw [text, splitOn_append_separator, splitOn_append_separator, splitOn_append_separator,
    splitOn_append_separator, splitOn_joinWith present plain, splitOn_of_notMem title,
    splitOn_of_notMem hint]
  rfl

end ChangeId

theorem trim_of_mem_footerValues {message key id : String} (member : id ∈ footerValues message key) :
    trim id.toList = id.toList ∧ '\n' ∉ id.toList := by
  obtain ⟨footer, filtered, rfl⟩ := List.mem_map.mp member
  have writable := Footer.isWritable_of_mem (List.mem_of_mem_filter filtered)
  exact ⟨writable.value_trimmed, writable.value_on_one_line⟩

namespace ChangeIdPolicy

variable (policy : ChangeIdPolicy) (world : Collaborators) {candidate : Candidate}

theorem rejectedFor_of_hint {reason : String}
    (hinted : policy.check world candidate = policy.rejectWithHint world reason) :
    RejectedFor ((hasChangeId policy).outcome world candidate) reason := by
  obtain ⟨rejection, rejects, given⟩ := policy.reason_rejectWithHint world reason
  rw [← hinted] at rejects
  exact ⟨rejection, Validator.ofCheck_rejects rejects _, given⟩

theorem rejectedFor_of_reject {rejection : Rejection}
    (rejects : policy.check world candidate = Check.reject rejection) :
    RejectedFor ((hasChangeId policy).outcome world candidate) rejection.reason := by
  have outcome : (policy.check world candidate).outcome = .error rejection := by
    rw [rejects, Check.outcome_reject]
  exact ⟨rejection, Validator.ofCheck_rejects outcome _, rfl⟩

theorem decided_without_footer (expected : ChangeId.isExpected candidate.ref = true)
    (absent : candidate.commit.footerValues "Change-Id" = []) :
    DecidedBy ((hasChangeId policy).outcome world candidate)
      [("missing subject; Change-Id must be in message footer",
        HasChangeIdAsSubject candidate.toReceivedCommit),
       ("Change-Id must be in message footer",
        ∃ line ∈ (splitOn '\n' candidate.commit.message.toList).tail, "Change-Id:".toList <+: line),
       ("missing Change-Id in message footer", policy.project.requireChangeId = true)] := by
  have key : candidate.commit.footerValues Footer.changeIdKey = [] := absent
  have checked : policy.check world candidate =
      if ChangeId.inSubject candidate.commit.subject.toList = true then
        Check.reject (.policy ChangeId.missingSubject)
      else if ChangeId.hasMarkerLine candidate.commit.message.toList = true then
        Check.reject ChangeId.aboveFooterRejection
      else if policy.project.requireChangeId = true then
        policy.rejectWithHint world ChangeId.missing
      else pure () := by
    simp only [check, expected, Bool.not_true, Bool.false_eq_true, if_false, key]
  rw [← ChangeId.hasMarkerLine_iff_line, ← ChangeId.inSubject_iff]
  refine .cons (by simp) (fun subject => ?_) fun noSubject =>
    .cons (by simp) (fun line => ?_) fun noLine =>
    .cons (by simp) (fun required => ?_) fun optional => ?_
  · rw [if_pos subject] at checked
    exact policy.rejectedFor_of_reject world checked
  · rw [if_neg noSubject, if_pos line] at checked
    exact policy.rejectedFor_of_reject world checked
  · rw [if_neg noSubject, if_neg noLine, if_pos required] at checked
    exact policy.rejectedFor_of_hint world checked
  · rw [if_neg noSubject, if_neg noLine, if_neg optional] at checked
    apply Validator.ofCheck_passes
    rw [checked, Check.outcome_pure]

theorem decided_by_single_footer (expected : ChangeId.isExpected candidate.ref = true) {id : String}
    (one : candidate.commit.footerValues "Change-Id" = [id]) (trimmed : trim id.toList = id.toList) :
    DecidedBy ((hasChangeId policy).outcome world candidate)
      [("invalid Change-Id line format in message footer",
        ¬ IsChangeId id.toList ∨ id.toList = zeroChangeId),
       ("Change-Id in message footer does not match Change-Id of target change",
        ∃ change, policy.change = some change ∧ change.key ≠ id)] := by
  have key : candidate.commit.footerValues Footer.changeIdKey = [id] := one
  have checked : policy.check world candidate =
      if (!ChangeId.isValid id.toList || ChangeId.isPlaceholder id.toList) = true then
        policy.rejectWithHint world ChangeId.malformed
      else if policy.change.any (fun change => change.key.toList != id.toList) = true then
        Check.reject (.policy ChangeId.mismatch)
      else pure () := by
    simp only [check, expected, Bool.not_true, Bool.false_eq_true, if_false, key, trimmed]
  have malformed : (!ChangeId.isValid id.toList || ChangeId.isPlaceholder id.toList) = true ↔
      ¬ IsChangeId id.toList ∨ id.toList = zeroChangeId := by
    rw [Bool.or_eq_true, Bool.not_eq_true', ← Bool.not_eq_true, ChangeId.isValid, trimmed,
      ChangeId.isWellFormed_iff]
    by_cases wellFormed : IsChangeId id.toList
    · rw [ChangeId.isPlaceholder_iff wellFormed]
    · simp only [wellFormed, not_false_eq_true, true_or]
  have other : policy.change.any (fun change => change.key.toList != id.toList) = true ↔
      ∃ change, policy.change = some change ∧ change.key ≠ id := by
    rw [Option.any_eq_true]
    simp only [bne_iff_ne, ne_eq, String.toList_inj]
  rw [← malformed, ← other]
  refine .cons (by simp) (fun broken => ?_) fun proper =>
    .cons (by simp) (fun differs => ?_) fun matching => ?_
  · rw [if_pos broken] at checked
    exact policy.rejectedFor_of_hint world checked
  · rw [if_neg proper, if_pos differs] at checked
    exact policy.rejectedFor_of_reject world checked
  · rw [if_neg proper, if_neg matching] at checked
    apply Validator.ofCheck_passes
    rw [checked, Check.outcome_pure]

theorem outcome_of_several_footers (expected : ChangeId.isExpected candidate.ref = true)
    {first second : String} {others : List String}
    (several : candidate.commit.footerValues "Change-Id" = first :: second :: others) :
    (hasChangeId policy).outcome world candidate =
      .error ⟨ChangeId.multiple, [⟨ChangeId.multipleText
        ((candidate.commit.footerValues "Change-Id").map ChangeId.listed), .error⟩], .policy⟩ := by
  have key : candidate.commit.footerValues Footer.changeIdKey = first :: second :: others := several
  apply Validator.ofCheck_rejects
  rw [several, ← ChangeId.multipleRejection_eq]
  simp only [check, expected, Bool.not_true, Bool.false_eq_true, if_false, key, Check.outcome_reject]

end ChangeIdPolicy

/-- On a reviewed ref, the verdict hangs on the values of the Change-Id footers: without any of them, on
the subject and the other lines of the message; with one of them, on its form and on the target change.
Several of them are listed in a message of their own. -/
theorem change_ids_decide_verdict (policy : ChangeIdPolicy) (world : Collaborators)
    (candidate : Candidate) (reviewed : IsReviewed candidate.ref) :
    let received := candidate.toReceivedCommit
    let outcome := (hasChangeId policy).outcome world candidate
    let ids := ((Footer.ofMessage received.commit.message).filter fun footer =>
      footer.key.toList.map Char.toLower == "change-id".toList).map Footer.value
    (outcome = .ok .plain ∨
      ∃ reason ∈ ["missing subject; Change-Id must be in message footer",
          "Change-Id must be in message footer", "missing Change-Id in message footer",
          "multiple Change-Id lines in message footer",
          "invalid Change-Id line format in message footer",
          "Change-Id in message footer does not match Change-Id of target change"],
        RejectedFor outcome reason) ∧
    (ids = [] → DecidedBy outcome
      [("missing subject; Change-Id must be in message footer", HasChangeIdAsSubject received),
       ("Change-Id must be in message footer",
        ∃ line ∈ (splitOn '\n' received.commit.message.toList).tail,
          "Change-Id:".toList <+: line),
       ("missing Change-Id in message footer", policy.project.requireChangeId = true)]) ∧
    (∀ first second others, ids = first :: second :: others → ∃ text entries,
      outcome = .error ⟨"multiple Change-Id lines in message footer", [⟨text, .error⟩], .policy⟩ ∧
      splitOn '\n' text.toList = ["multiple Change-Id lines in message footer".toList, [],
        "Hint: the following Change-Ids were found:".toList] ++ entries ++ [[]] ∧
      List.Forall₂ ChangeId.Listed ids entries) ∧
    ∀ id, ids = [id] → DecidedBy outcome
      [("invalid Change-Id line format in message footer",
        ¬ IsChangeId id.toList ∨ id.toList = zeroChangeId),
       ("Change-Id in message footer does not match Change-Id of target change",
        ∃ change, policy.change = some change ∧ change.key ≠ id)] := by
  intro received outcome ids
  have expected : ChangeId.isExpected candidate.ref = true :=
    (isExpected_iff_isReviewed _).mpr reviewed
  have values : candidate.commit.footerValues "Change-Id" = ids := rfl
  have written : ∀ id ∈ ids, trim id.toList = id.toList ∧ '\n' ∉ id.toList := fun id member =>
    trim_of_mem_footerValues (values ▸ member)
  have without (none : ids = []) := policy.decided_without_footer world expected none
  have single (id : String) (one : ids = [id]) :=
    policy.decided_by_single_footer world expected one (written id (one ▸ List.mem_singleton_self id)).1
  have several (first second : String) (others : List String) (many : ids = first :: second :: others) :=
    policy.outcome_of_several_footers world expected many
  rw [values] at several
  clear_value ids
  refine ⟨?_, without, ?_, single⟩
  · rcases found : ids with _ | ⟨first, _ | ⟨second, others⟩⟩
    · exact (without found).rejected_within (by simp)
    · exact (single first found).rejected_within (by simp)
    · exact .inr ⟨ChangeId.multiple, by simp [ChangeId.multiple], _,
        several first second others found, rfl⟩
  · intro first second others many
    have present : ids.map ChangeId.listed ≠ [] := by simp [many]
    have listed : List.Forall₂ ChangeId.Listed ids (ids.map ChangeId.listed) := by
      rw [List.forall₂_map_right_iff, List.forall₂_same]
      exact fun id member => ChangeId.listed_entry (written id member).1
    have plain : ∀ entry ∈ ids.map ChangeId.listed, '\n' ∉ entry :=
      List.forall_mem_map.mpr fun id member =>
        (ChangeId.listed_entry (written id member).1).newline_notMem (written id member).2
    exact ⟨_, ids.map ChangeId.listed, several first second others many,
      ChangeId.lines_multipleText present plain, listed⟩

/-- A Change-Id in the last but one paragraph is misplaced, and of two in the last one the short one is
listed as invalid. -/
theorem misplaced_and_repeated_change_ids :
    let world := (Memory.empty "localhost").collaborators
    let user := User.ofAccount 1
    let person : Person := ⟨"U", "u@x"⟩
    let policy : ChangeIdPolicy :=
      ⟨⟨⟨"p"⟩, .active, false, false⟩, user, none, none, .none, none⟩
    let candidate (message : String) : Candidate :=
      (ReceivedCommit.dossier ⟨⟨"refs/for/main", .zero, .zero⟩, ⟨⟨"p"⟩, "refs/heads/main"⟩,
        ⟨.zero, [], person, person, message⟩, user⟩).candidate world
    let misplaced := candidate "Fix\n\nChange-Id: I1\n\nBug: 7"
    let repeated := candidate
      "Fix\n\nChange-Id: I0123456789abcdef0123456789abcdef01234567\nchange-id: I1"
    IsReviewed misplaced.ref ∧ IsReviewed repeated.ref ∧
    RejectedFor ((hasChangeId policy).outcome world misplaced)
      "Change-Id must be in message footer" ∧
    ∃ text first second, (hasChangeId policy).outcome world repeated =
        .error ⟨"multiple Change-Id lines in message footer", [⟨text, .error⟩], .policy⟩ ∧
      ChangeId.Listed "I0123456789abcdef0123456789abcdef01234567" first ∧
      ChangeId.Listed "I1" second := by
  intro world user person policy candidate misplaced repeated
  have reviewed (message : String) : IsReviewed (candidate message).ref :=
    (isExpected_iff_isReviewed _).mp (by decide : ChangeId.isExpected "refs/for/main" = true)
  refine ⟨reviewed _, reviewed _, ?_, ?_⟩
  · have decided :=
      (change_ids_decide_verdict policy world misplaced (reviewed _)).2.1 (by decide)
    have hasSubject : ¬ HasChangeIdAsSubject misplaced.toReceivedCommit := by
      rw [← ChangeId.inSubject_iff]
      decide
    exact (decided.2 hasSubject).1.mpr ⟨"Change-Id: I1".toList, by decide, by decide⟩
  · have ids : repeated.commit.footerValues "Change-Id" =
        ["I0123456789abcdef0123456789abcdef01234567", "I1"] := by
      decide
    obtain ⟨text, entries, rejected, _, listed⟩ :=
      (change_ids_decide_verdict policy world repeated (reviewed _)).2.2.1 _ _ [] ids
    have entriesOf : List.Forall₂ ChangeId.Listed
        ["I0123456789abcdef0123456789abcdef01234567", "I1"] entries := by
      rw [← ids]
      exact listed
    obtain _ | ⟨valid, _ | ⟨invalid, _⟩⟩ := entriesOf
    exact ⟨text, _, _, rejected, valid, invalid⟩

end CommitAdmission
