import CommitAdmission.Proofs.FooterForms
import CommitAdmission.Proofs.ReviewRefs

/-! The subject line of a message, its first line that is not blank, and whether footers are read from it.
On the first line of the message it is safe; pushed down by blank lines it is read like any other line,
unless a blank line follows. -/

namespace CommitAdmission

open Text

namespace Footer

variable {lines later : List (List Char)} {line : List Char}

theorem filterMap_ofLine?_of_blank (blank : ∀ line ∈ lines, allBlank line = true) :
    lines.filterMap ofLine? = [] :=
  List.filterMap_eq_nil_iff.mpr fun line member => ofLine?_of_blank (blank line member)

theorem emptyEnd_empty (later : List (List Char)) :
    ∀ line ∈ later.rtakeWhile List.isEmpty, line = [] := fun _ member =>
  List.isEmpty_iff.mp (List.mem_rtakeWhile_imp member)

theorem filterMap_ofLine?_emptyEnd (later : List (List Char)) :
    (later.rtakeWhile List.isEmpty).filterMap ofLine? = [] := by
  apply filterMap_ofLine?_of_blank
  intro line member
  rw [emptyEnd_empty later line member]
  rfl

theorem exists_read (later : List (List Char)) :
    ∃ read, read <:+ later ∧ (lastBlock later).filterMap ofLine? = read.filterMap ofLine? := by
  obtain ⟨front, whole⟩ : lastBlock later <:+ later.rdropWhile List.isEmpty :=
    List.rtakeWhile_suffix _ _
  refine ⟨lastBlock later ++ later.rtakeWhile List.isEmpty, ⟨front, ?_⟩, ?_⟩
  · rw [← List.append_assoc, whole, List.rdropWhile_append_rtakeWhile]
  · rw [List.filterMap_append, filterMap_ofLine?_emptyEnd, List.append_nil]

/-- A line below blank lines is read with all that follows it, if no blank line does but for the empty
lines at the end. -/
theorem filterMap_lastBlock_of_pushed_down {gaps rest : List (List Char)} {subject : List Char}
    (blank : ∀ line ∈ gaps, allBlank line = true) (dark : allBlank subject = false)
    (darkRest : ∀ line ∈ rest.rdropWhile List.isEmpty, allBlank line = false) :
    (lastBlock (gaps ++ subject :: rest)).filterMap ofLine? =
      (subject :: rest).filterMap ofLine? := by
  have whole : subject :: rest =
      subject :: rest.rdropWhile List.isEmpty ++ rest.rtakeWhile List.isEmpty := by
    rw [List.cons_append, List.rdropWhile_append_rtakeWhile]
  have stopped : gaps.rtakeWhile (!allBlank ·) = [] := by
    rw [List.rtakeWhile_eq_nil_iff]
    intro present
    rw [blank _ (List.getLast_mem present)]
    exact Bool.false_ne_true
  have darkBlock : ∀ line ∈ subject :: rest.rdropWhile List.isEmpty, allBlank line = false :=
    List.forall_mem_cons.mpr ⟨dark, darkRest⟩
  rw [whole, ← List.append_assoc, lastBlock_append_empty (emptyEnd_empty rest),
    lastBlock_append_dark darkBlock (List.cons_ne_nil _ _), stopped, List.nil_append,
    List.filterMap_append, filterMap_ofLine?_emptyEnd, List.append_nil]

end Footer

theorem ChangeIdPolicy.outcome_without_footer (policy : ChangeIdPolicy) (world : Collaborators)
    {candidate : Candidate} (reviewed : IsReviewed candidate.ref)
    (required : policy.project.requireChangeId = true)
    (absent : candidate.commit.footerValues "Change-Id" = []) :
    ∃ rejection, (hasChangeId policy).outcome world candidate = .error rejection := by
  have expected : ChangeId.isExpected candidate.ref = true :=
    (isExpected_iff_isReviewed _).mpr reviewed
  obtain ⟨rejection, rejects⟩ := policy.rejects_without_footer world expected required absent
  exact ⟨rejection, Validator.ofCheck_rejects rejects _⟩

/-- Whether the subject is kept out of the footers by what is before and after it: it is on the first
line, or a blank line follows, one that does not belong to the empty lines at the end. -/
def IsSubjectKeptOut (before rest : List (List Char)) : Prop :=
  before = [] ∨ ∃ line ∈ rest.rdropWhile List.isEmpty, allBlank line = true

theorem IsSubjectKeptOut.exists_read {message : String} {before rest : List (List Char)}
    {subject : List Char} (keptOut : IsSubjectKeptOut before rest)
    (whole : splitOn '\n' message.toList = before ++ subject :: rest) :
    ∃ read, read <:+ rest ∧ Footer.ofMessage message = read.filterMap Footer.ofLine? := by
  have below : Footer.lastBlock (before ++ subject :: rest).tail = Footer.lastBlock rest := by
    cases before with
    | nil => rfl
    | cons line gaps =>
      have gap : ∃ line ∈ rest.rdropWhile List.isEmpty, allBlank line = true :=
        keptOut.resolve_left (List.cons_ne_nil line gaps)
      have lines : (line :: gaps ++ subject :: rest).tail = (gaps ++ [subject]) ++ rest := by
        rw [List.append_assoc]
        rfl
      rw [lines, Footer.lastBlock_append_of_gap gap]
  rw [Footer.ofMessage_eq_lastBlock, whole, below]
  exact Footer.exists_read rest

/-- A subject that is kept out is never read: the footers are written by lines below it. On a reviewed
ref of a project that requires Change-Ids, a commit with such a subject and nothing else is rejected.
A subject that is not kept out is read like the lines below it. -/
theorem subject_is_no_footer_where_kept_out {message : String} {before rest : List (List Char)}
    {subject : List Char} (whole : splitOn '\n' message.toList = before ++ subject :: rest)
    (leading : ∀ line ∈ before, allBlank line = true) (dark : allBlank subject = false) :
    (IsSubjectKeptOut before rest →
      (∃ read, read <:+ rest ∧ Footer.ofMessage message = read.filterMap Footer.ofLine?) ∧
      ((∀ line ∈ rest, allBlank line = true) →
        ∀ (policy : ChangeIdPolicy) (world : Collaborators) (candidate : Candidate),
          candidate.commit.message = message → IsReviewed candidate.ref →
          policy.project.requireChangeId = true →
          ∃ rejection, (hasChangeId policy).outcome world candidate = .error rejection)) ∧
    (¬ IsSubjectKeptOut before rest →
      Footer.ofMessage message = (subject :: rest).filterMap Footer.ofLine?) := by
  constructor
  · intro keptOut
    obtain ⟨read, part, footers⟩ := keptOut.exists_read whole
    refine ⟨⟨read, part, footers⟩, ?_⟩
    intro blank policy world candidate same reviewed required
    have none : Footer.ofMessage message = [] := by
      rw [footers]
      exact Footer.filterMap_ofLine?_of_blank fun line member => blank line (part.subset member)
    apply policy.outcome_without_footer world reviewed required
    rw [Commit.footerValues, footerValues, same, none]
    rfl
  · intro read
    rw [IsSubjectKeptOut, not_or, not_exists] at read
    obtain ⟨pushed, darkRest⟩ := read
    rw [Footer.ofMessage_eq_lastBlock, whole]
    cases before with
    | nil => exact absurd rfl pushed
    | cons line gaps =>
      have gapsBlank := (List.forall_mem_cons.mp leading).2
      apply Footer.filterMap_lastBlock_of_pushed_down gapsBlank dark
      intro other member
      rw [← Bool.not_eq_true]
      exact fun blank => darkRest other ⟨member, blank⟩

/-- A Change-Id alone on the first line is no footer, and one on the second line is. -/
theorem change_id_on_first_line_is_no_footer :
    let world := (Memory.empty "localhost").collaborators
    let user := User.ofAccount 1
    let person : Person := ⟨"U", "u@x"⟩
    let policy : ChangeIdPolicy :=
      ⟨⟨⟨"p"⟩, .active, true, false⟩, user, none, none, .none, none⟩
    let subject := "Change-Id: I1".toList
    let candidate : Candidate :=
      (ReceivedCommit.dossier ⟨⟨"refs/for/main", .zero, .zero⟩, ⟨⟨"p"⟩, "refs/heads/main"⟩,
        ⟨.zero, [], person, person, "Change-Id: I1\n\n"⟩, user⟩).candidate world
    splitOn '\n' "Change-Id: I1\n\n".toList = [] ++ subject :: [[], []] ∧
    allBlank subject = false ∧ IsSubjectKeptOut [] [[], []] ∧
    IsReviewed candidate.ref ∧ policy.project.requireChangeId = true ∧
    (∃ rejection, (hasChangeId policy).outcome world candidate = .error rejection) ∧
    splitOn '\n' "\nChange-Id: I1".toList = [[]] ++ subject :: [] ∧
    ¬ IsSubjectKeptOut [[]] [] ∧ Footer.ofMessage "\nChange-Id: I1" = [⟨"Change-Id", "I1"⟩] := by
  intro world user person policy subject candidate
  have first : splitOn '\n' "Change-Id: I1\n\n".toList = [] ++ subject :: [[], []] := by decide
  have second : splitOn '\n' "\nChange-Id: I1".toList = [[]] ++ subject :: [] := by decide
  have dark : allBlank subject = false := by decide
  have keptOut : IsSubjectKeptOut [] [[], []] := .inl rfl
  have pushedDown : ¬ IsSubjectKeptOut [[]] [] := by simp [IsSubjectKeptOut]
  have reviewed : IsReviewed candidate.ref := (isExpected_iff_isReviewed _).mp (by decide)
  have rejected : ∃ rejection, (hasChangeId policy).outcome world candidate = .error rejection :=
    ((subject_is_no_footer_where_kept_out first (by decide) dark).1 keptOut).2 (by decide) policy
      world candidate rfl reviewed rfl
  have read := (subject_is_no_footer_where_kept_out second (by decide) dark).2 pushedDown
  exact ⟨first, dark, keptOut, reviewed, rfl, rejected, second, pushedDown, read⟩

/-- Below an empty line, the only line of a message is its subject and a footer, and the commit is
accepted where a Change-Id is required. -/
theorem pushed_down_subject_is_footer :
    let world := (Memory.empty "localhost").collaborators
    let user := User.ofAccount 1
    let person : Person := ⟨"U", "u@x"⟩
    let policy : ChangeIdPolicy :=
      ⟨⟨⟨"p"⟩, .active, true, false⟩, user, none, none, .none, none⟩
    let id := "I0123456789abcdef0123456789abcdef01234567"
    let candidate : Candidate :=
      (ReceivedCommit.dossier ⟨⟨"refs/for/main", .zero, .zero⟩, ⟨⟨"p"⟩, "refs/heads/main"⟩,
        ⟨.zero, [], person, person, "\nChange-Id: I0123456789abcdef0123456789abcdef01234567"⟩,
        user⟩).candidate world
    splitOn '\n' candidate.commit.message.toList = [[], ("Change-Id: " ++ id).toList] ∧
    candidate.commit.subject = "Change-Id: " ++ id ∧
    Footer.ofMessage candidate.commit.message = [⟨"Change-Id", id⟩] ∧
    IsReviewed candidate.ref ∧ policy.project.requireChangeId = true ∧
    (hasChangeId policy).outcome world candidate = .ok .plain := by
  intro world user person policy id candidate
  have reviewed : IsReviewed candidate.ref := (isExpected_iff_isReviewed _).mp (by decide)
  refine ⟨by decide, by decide, by decide, reviewed, rfl, ?_⟩
  dsimp only [world, user, person, policy, id, candidate]
  rfl

end CommitAdmission
