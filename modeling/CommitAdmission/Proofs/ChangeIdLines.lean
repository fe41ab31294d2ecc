import CommitAdmission.Proofs.ChangeIdVerdicts

/-! A line with a Change-Id written at the end of a message, as the commit-msg hook does it. It repairs a
commit that has no Change-Id in a footer, and spoils one that has. -/

namespace CommitAdmission

open Text

def Candidate.reworded (candidate : Candidate) (message : String) : Candidate :=
  { candidate with commit := { candidate.commit with message } }

theorem Candidate.message_reworded (candidate : Candidate) (message : String) :
    (candidate.reworded message).commit.message = message := rfl

theorem Candidate.reworded_reworded (candidate : Candidate) (first second : String) :
    (candidate.reworded first).reworded second = candidate.reworded second := rfl

theorem IsChangeId.isKeyChar {id : List Char} (wellFormed : IsChangeId id) :
    ∀ c ∈ id, Footer.isKeyChar c = true := by
  obtain ⟨digits, rfl, _, hex⟩ := wellFormed
  refine List.forall_mem_cons.mpr ⟨rfl, fun c member => ?_⟩
  have digit := hex c member
  simp only [isLowerHex, Bool.or_eq_true, Bool.and_eq_true, decide_eq_true_eq] at digit
  rw [Footer.isKeyChar_iff]
  rcases digit with decimal | letter
  · exact .inr (.inr (.inl decimal))
  · have last : 'f' ≤ 'z' := by decide
    exact .inr (.inl ⟨letter.1, Char.le_trans letter.2 last⟩)

theorem IsChangeId.newline_notMem {id : List Char} (wellFormed : IsChangeId id) : '\n' ∉ id :=
  fun member => absurd (wellFormed.isKeyChar _ member) (by decide)

theorem IsChangeId.trim_eq {id : List Char} (wellFormed : IsChangeId id) : trim id = id :=
  trim_of_dark fun c member => Footer.isBlank_of_isKeyChar (wellFormed.isKeyChar c member)

theorem Footer.values_of_own_key (key value : String) :
    (([⟨key, value⟩] : List Footer).filter (·.hasKey key)).map Footer.value = [value] := by
  have own : Footer.hasKey ⟨key, value⟩ key = true := beq_self_eq_true _
  rw [List.filter_cons, own]
  rfl

namespace ChangeId

def line (id : String) : String := "Change-Id: " ++ id

variable {id : String} (wellFormed : IsChangeId id.toList)

include wellFormed

theorem ofLine?_line : Footer.ofLine? (line id).toList = some ⟨"Change-Id", id⟩ := by
  have text : (line id).toList = "Change-Id".toList ++ ':' :: ' ' :: id.toList := by
    simp [line]
  rw [text, Footer.ofLine?_append_spaced (by decide) (List.all_eq_true.mp rfl), wellFormed.trim_eq,
    String.ofList_toList, String.ofList_toList]

theorem newline_notMem_line : '\n' ∉ (line id).toList := by
  simp [line, wellFormed.newline_notMem]

theorem footerValues_append_own_line (body : String) :
    footerValues (body ++ "\n\n" ++ line id ++ "\n") "Change-Id" = [id] := by
  rw [footerValues, Footer.ofMessage_append_own_line (ofLine?_line wellFormed)
    (newline_notMem_line wellFormed), Footer.values_of_own_key]

theorem footerValues_append_last_line (message : String) :
    footerValues (String.ofList (dropFinalNewlines message.toList) ++ "\n" ++ line id ++ "\n")
      "Change-Id" = footerValues message "Change-Id" ++ [id] := by
  rw [footerValues, Footer.ofMessage_append_last_line (ofLine?_line wellFormed)
    (newline_notMem_line wellFormed), List.filter_append, List.map_append,
    Footer.values_of_own_key, footerValues]

end ChangeId

namespace ChangeIdPolicy

variable (policy : ChangeIdPolicy) (world : Collaborators) {candidate : Candidate}

theorem accepts_single_footer {id : String}
    (one : candidate.commit.footerValues "Change-Id" = [id]) (wellFormed : IsChangeId id.toList)
    (proper : id.toList ≠ zeroChangeId)
    (matching : ∀ change, policy.change = some change → change.key = id) :
    (hasChangeId policy).outcome world candidate = .ok .plain := by
  cases expected : ChangeId.isExpected candidate.ref with
  | false => exact policy.outcome_unexpected world expected
  | true =>
    obtain ⟨_, decided⟩ := policy.decided_by_single_footer world expected one wellFormed.trim_eq
    have inOrder : ¬ (¬ IsChangeId id.toList ∨ id.toList = zeroChangeId) :=
      not_or.mpr ⟨not_not_intro wellFormed, proper⟩
    have noOther : ¬ ∃ change, policy.change = some change ∧ change.key ≠ id := by
      rintro ⟨change, target, differs⟩
      exact differs (matching change target)
    exact (decided inOrder).2 noOther

theorem rejectedFor_multiple_iff {ids : List String} {last : String} (present : ids ≠ [])
    (several : candidate.commit.footerValues "Change-Id" = ids ++ [last]) :
    RejectedFor ((hasChangeId policy).outcome world candidate)
        "multiple Change-Id lines in message footer" ↔ IsReviewed candidate.ref := by
  obtain ⟨first, others, rfl⟩ := List.exists_cons_of_ne_nil present
  obtain ⟨second, rest, more⟩ :=
    List.exists_cons_of_ne_nil (List.concat_ne_nil last others)
  rw [List.cons_append, more] at several
  rw [← isExpected_iff_isReviewed]
  constructor
  · intro rejected
    by_contra direct
    have accepted := policy.outcome_unexpected world (Bool.not_eq_true _ ▸ direct)
    exact not_rejectedFor_of_ok accepted _ rejected
  · intro expected
    exact ⟨_, policy.outcome_of_several_footers world expected several, rfl⟩

end ChangeIdPolicy

/-- A line with a Change-Id right below the last line of a message joins its last paragraph, and below an
empty line it is a paragraph of its own. Either way a commit without a Change-Id in a footer becomes
acceptable. In the first way, one with a Change-Id is rejected where they are checked. -/
theorem appended_change_id_repairs_or_breaks (policy : ChangeIdPolicy) (world : Collaborators)
    (candidate : Candidate) {id : String} (wellFormed : IsChangeId id.toList)
    (proper : id.toList ≠ zeroChangeId) :
    let message := candidate.commit.message
    let kept := String.ofList (dropFinalNewlines message.toList)
    let outcome (edited : String) :=
      (hasChangeId policy).outcome world (candidate.reworded edited)
    let joined := outcome (kept ++ "\n" ++ ChangeId.line id ++ "\n")
    let apart := outcome (kept ++ "\n\n" ++ ChangeId.line id ++ "\n")
    ((∀ change, policy.change = some change → change.key = id) →
      (footerValues message "Change-Id" = [] → joined = .ok .plain) ∧ apart = .ok .plain) ∧
    (footerValues message "Change-Id" ≠ [] →
      (RejectedFor joined "multiple Change-Id lines in message footer" ↔
        IsReviewed candidate.ref)) := by
  intro message kept outcome joined apart
  have values : footerValues (kept ++ "\n" ++ ChangeId.line id ++ "\n") "Change-Id" =
      footerValues message "Change-Id" ++ [id] :=
    ChangeId.footerValues_append_last_line wellFormed message
  have own : footerValues (kept ++ "\n\n" ++ ChangeId.line id ++ "\n") "Change-Id" = [id] :=
    ChangeId.footerValues_append_own_line wellFormed kept
  refine ⟨fun matching => ⟨fun absent => ?_, ?_⟩, fun present => ?_⟩
  · rw [absent] at values
    exact policy.accepts_single_footer world values wellFormed proper matching
  · exact policy.accepts_single_footer world own wellFormed proper matching
  · exact policy.rejectedFor_multiple_iff world present values

/-- Below a footer of another key, the Change-Id of the target change makes the commit acceptable; below a
Change-Id of another spelling it is one too many. -/
theorem change_id_below_other_footers :
    let world := (Memory.empty "localhost").collaborators
    let user := User.ofAccount 1
    let person : Person := ⟨"U", "u@x"⟩
    let id := "I0123456789abcdef0123456789abcdef01234567"
    let policy : ChangeIdPolicy := ⟨⟨⟨"p"⟩, .active, true, false⟩, user, none, none, .none,
      some ⟨1234, id, ⟨"p"⟩, "refs/heads/main"⟩⟩
    let candidate : Candidate :=
      (ReceivedCommit.dossier ⟨⟨"refs/changes/34/1234/2", .zero, .zero⟩, ⟨⟨"p"⟩, "refs/heads/main"⟩,
        ⟨.zero, [], person, person, ""⟩, user⟩).candidate world
    let outcome (message : String) :=
      (hasChangeId policy).outcome world (candidate.reworded message)
    IsChangeId id.toList ∧ id.toList ≠ zeroChangeId ∧
    (∀ change, policy.change = some change → change.key = id) ∧
    footerValues "Fix\n\nBug: 7\n\n" "Change-Id" = [] ∧
    outcome ("Fix\n\nBug: 7\nChange-Id: " ++ id ++ "\n") = .ok .plain ∧
    outcome ("Fix\n\nBug: 7\n\nChange-Id: " ++ id ++ "\n") = .ok .plain ∧
    footerValues "Fix\n\nchange-id: I1\n" "Change-Id" ≠ [] ∧
    RejectedFor (outcome ("Fix\n\nchange-id: I1\nChange-Id: " ++ id ++ "\n"))
      "multiple Change-Id lines in message footer" := by
  intro world user person id policy candidate outcome
  have wellFormed : IsChangeId id.toList := (ChangeId.isWellFormed_iff _).mp (by decide)
  have proper : id.toList ≠ zeroChangeId := by decide
  have matching : ∀ change, policy.change = some change → change.key = id := by
    rintro change target
    rw [← Option.some.inj target]
  have absent : footerValues "Fix\n\nBug: 7\n\n" "Change-Id" = [] := by decide
  have present : footerValues "Fix\n\nchange-id: I1\n" "Change-Id" ≠ [] := by decide
  have reviewed : IsReviewed candidate.ref := (isExpected_iff_isReviewed _).mp (by decide)
  have bugText : String.ofList (dropFinalNewlines "Fix\n\nBug: 7\n\n".toList) = "Fix\n\nBug: 7" := by
    decide
  have otherText : String.ofList (dropFinalNewlines "Fix\n\nchange-id: I1\n".toList) =
      "Fix\n\nchange-id: I1" := by
    decide
  have repaired := (appended_change_id_repairs_or_breaks policy world
    (candidate.reworded "Fix\n\nBug: 7\n\n") wellFormed proper).1 matching
  have broken := (appended_change_id_repairs_or_breaks policy world
    (candidate.reworded "Fix\n\nchange-id: I1\n") wellFormed proper).2 present
  simp only [Candidate.message_reworded, Candidate.reworded_reworded, bugText, otherText]
    at repaired broken
  exact ⟨wellFormed, proper, matching, absent, repaired.1 absent, repaired.2, present,
    broken.mpr reviewed⟩

end CommitAdmission
